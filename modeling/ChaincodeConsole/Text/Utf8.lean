/-!
UTF-8 in both directions. Reading works byte by byte: a piece of the input is either the
encoding of a character or a longest prefix of one that breaks off, and such a broken piece
counts as one. Lossy reading puts U+FFFD in its place, strict reading refuses it.
-/
namespace ChaincodeConsole.Text

def utf8Chars (cs : List Char) : List UInt8 := cs.flatMap String.utf8EncodeChar

def utf8 (s : String) : List UInt8 := utf8Chars s.toList

/-- A character whose first bytes have been read: the bits so far, the number of bytes
still to come, and the range that the next of them has to lie in. -/
structure Opened where
  bits : Nat
  missing : Nat
  low : Nat
  high : Nat
  deriving DecidableEq, Repr

inductive Lead where
  | ascii (c : Char)
  | opened (o : Opened)
  | stray
  deriving DecidableEq, Repr

/-- What a byte at the start of a piece means. The narrowed ranges keep out overlong forms,
surrogates and values above U+10FFFF. -/
def lead (b : UInt8) : Lead :=
  let n := b.toNat
  if n < 0x80 then .ascii (Char.ofNat n)
  else if n < 0xC2 then .stray
  else if n < 0xE0 then .opened ⟨n - 0xC0, 1, 0x80, 0xBF⟩
  else if n = 0xE0 then .opened ⟨0, 2, 0xA0, 0xBF⟩
  else if n = 0xED then .opened ⟨13, 2, 0x80, 0x9F⟩
  else if n < 0xF0 then .opened ⟨n - 0xE0, 2, 0x80, 0xBF⟩
  else if n = 0xF0 then .opened ⟨0, 3, 0x90, 0xBF⟩
  else if n < 0xF4 then .opened ⟨n - 0xF0, 3, 0x80, 0xBF⟩
  else if n = 0xF4 then .opened ⟨4, 3, 0x80, 0x8F⟩
  else .stray

/-- The pieces of the input: `some c` for a character, `none` for a broken piece. -/
def pieces : Option Opened → List UInt8 → List (Option Char)
  | none, [] => []
  | some _, [] => [none]
  | none, b :: r =>
    match lead b with
    | .ascii c => some c :: pieces none r
    | .opened o => pieces (some o) r
    | .stray => none :: pieces none r
  | some o, b :: r =>
    if o.low ≤ b.toNat ∧ b.toNat ≤ o.high then
      let bits := o.bits * 64 + (b.toNat - 0x80)
      if o.missing = 1 then some (Char.ofNat bits) :: pieces none r
      else pieces (some ⟨bits, o.missing - 1, 0x80, 0xBF⟩) r
    else
      match lead b with
      | .ascii c => none :: some c :: pieces none r
      | .opened p => none :: pieces (some p) r
      | .stray => none :: none :: pieces none r

def replacement : Char := '\uFFFD'

def lossyChars (bytes : List UInt8) : List Char :=
  (pieces none bytes).map (·.getD replacement)

def lossy (bytes : List UInt8) : String := String.ofList (lossyChars bytes)

def strict? (bytes : List UInt8) : Option String :=
  ((pieces none bytes).mapM id).map String.ofList

end ChaincodeConsole.Text
