/-!
Decimal integers as they are typed: an optional sign, then digits, within bounds.
-/
namespace ChaincodeConsole.Text

def digits? (cs : List Char) : Option Nat :=
  if cs.isEmpty || !cs.all Char.isDigit then none
  else some (cs.foldl (fun n c => n * 10 + (c.toNat - 48)) 0)

def integerChars? (cs : List Char) : Option Int :=
  match cs with
  | '-' :: r => (digits? r).map fun n => -(n : Int)
  | '+' :: r => (digits? r).map fun n => (n : Int)
  | r => (digits? r).map fun n => (n : Int)

def int64? (s : String) : Option Int :=
  (integerChars? s.toList).filter fun n => -9223372036854775808 ≤ n && n ≤ 9223372036854775807

def nat64? (s : String) : Option Nat :=
  let cs := match s.toList with
    | '+' :: r => r
    | r => r
  (digits? cs).filter (· ≤ 18446744073709551615)

end ChaincodeConsole.Text
