import ChaincodeConsole.Text.Hex
import ChaincodeConsole.Text.Utf8

/-!
Percent-encoding: a character outside a given set is written as its bytes, each as a percent sign
and two hexadecimal digits.
-/
namespace ChaincodeConsole.Text

def percentByte (b : UInt8) : List Char :=
  ['%', upperHexDigit (b.toNat / 16), upperHexDigit (b.toNat % 16)]

def percentChar (c : Char) : List Char := (String.utf8EncodeChar c).flatMap percentByte

def percentChars (keep : Char → Bool) (cs : List Char) : List Char :=
  cs.flatMap fun c => if keep c then [c] else percentChar c

def percentDecoded : List Char → List UInt8
  | '%' :: a :: b :: r =>
    match hexValue? a, hexValue? b with
    | some x, some y => UInt8.ofNat (x * 16 + y) :: percentDecoded r
    | _, _ => 37 :: percentDecoded (a :: b :: r)
  | c :: r => String.utf8EncodeChar c ++ percentDecoded r
  | [] => []

def formChars (cs : List Char) : List Char :=
  cs.flatMap fun c =>
    if c = ' ' then ['+']
    else if c.isAlphanum ∨ c ∈ ['*', '-', '.', '_'] then [c]
    else percentChar c

def formPairs (pairs : List (String × String)) : List Char :=
  List.intercalate ['&'] (pairs.map fun (name, value) =>
    formChars name.toList ++ '=' :: formChars value.toList)

end ChaincodeConsole.Text
