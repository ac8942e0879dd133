import ChaincodeConsole.Decimal.Shortest

/-!
How a decimal is laid out: positionally between two powers of ten, otherwise with one digit
before the point and an exponent. The decisions are the fields of a record.
-/
namespace ChaincodeConsole

structure Layout where
  leastPositional : Int
  pastPositional : Int
  integerEnd : List Char
  exponentMark : List Char
  positiveSign : List Char

namespace Layout

def digits (n : Nat) : List Char := Nat.toDigits 10 n

def positional (l : Layout) (d : Decimal) : List Char :=
  let ds := digits d.coefficient
  if 0 ≤ d.exponent then ds ++ List.replicate d.exponent.toNat '0' ++ l.integerEnd
  else
    let after := (-d.exponent).toNat
    if after < ds.length then
      ds.take (ds.length - after) ++ '.' :: ds.drop (ds.length - after)
    else '0' :: '.' :: (List.replicate (after - ds.length) '0' ++ ds)

def scientific (l : Layout) (leading : Int) (d : Decimal) : List Char :=
  let power := (if leading < 0 then ['-'] else l.positiveSign) ++ digits leading.natAbs
  match digits d.coefficient with
  | [] => []
  | [c] => c :: (l.exponentMark ++ power)
  | c :: r => c :: '.' :: (r ++ l.exponentMark ++ power)

def decimal (l : Layout) (d : Decimal) : List Char :=
  let leading := d.exponent + (digits d.coefficient).length - 1
  if d.coefficient = 0 ∨ l.leastPositional ≤ leading ∧ leading < l.pastPositional then
    l.positional d
  else l.scientific leading d

def floating (l : Layout) (x : Binary64) : List Char :=
  (if x.negative then ['-'] else []) ++ l.decimal (Decimal.shortest x)

end Layout
end ChaincodeConsole
