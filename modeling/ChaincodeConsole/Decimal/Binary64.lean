/-!
Finite numbers of the 64-bit binary floating format, as sign, significand and power of two.
Rounding, multiplication and division are exact integer computations: a result is the
nearest number of the format, the even significand winning a tie, and absent beyond its range.
-/
namespace ChaincodeConsole

/-- The number `± significand · 2 ^ exponent`. The significand has 53 binary digits,
or fewer with the least exponent. -/
structure Binary64 where
  negative : Bool
  significand : Nat
  exponent : Int
  deriving DecidableEq, Repr, Inhabited

namespace Binary64

def leastExponent : Int := -1074
def greatestExponent : Int := 971

def zero : Binary64 := ⟨false, 0, leastExponent⟩

def isZero (x : Binary64) : Bool := x.significand == 0

/-- The quotient rounded to the nearest integer, a half to the even one. -/
def roundDiv (num den : Nat) : Nat :=
  let q := num / den
  let twice := 2 * (num % den)
  if twice < den then q
  else if den < twice then q + 1
  else if q % 2 = 0 then q else q + 1

def scaled (num den : Nat) (e : Int) : Nat :=
  if 0 ≤ e then roundDiv num (den * Nat.pow 2 e.toNat)
  else roundDiv (num * Nat.pow 2 (-e).toNat) den

/-- The power of two in whose units `num / den` has 53 binary digits, before rounding. -/
def unitExponent (num den : Nat) : Int :=
  let guess : Int := (Nat.log2 num : Int) - (Nat.log2 den : Int) - 52
  let below : Bool :=
    if 0 ≤ guess then num < den * Nat.pow 2 (guess.toNat + 52)
    else num * Nat.pow 2 (-guess).toNat < den * Nat.pow 2 52
  if below then guess - 1 else guess

/-- The number nearest to `num / den`, absent if that is out of range. -/
def ofQuotient (negative : Bool) (num den : Nat) : Option Binary64 :=
  if num = 0 then some ⟨negative, 0, leastExponent⟩
  else
    let e := max (unitExponent num den) leastExponent
    let m := scaled num den e
    let (m, e) := if m = Nat.pow 2 53 then (Nat.pow 2 52, e + 1) else (m, e)
    if greatestExponent < e then none else some ⟨negative, m, e⟩

def ofNat (n : Nat) : Option Binary64 := ofQuotient false n 1

def powers (e : Int) : Nat × Nat :=
  if 0 ≤ e then (Nat.pow 2 e.toNat, 1) else (1, Nat.pow 2 (-e).toNat)

def mul (x y : Binary64) : Option Binary64 :=
  let (up, down) := powers (x.exponent + y.exponent)
  ofQuotient (x.negative != y.negative) (x.significand * y.significand * up) down

def div (x y : Binary64) : Option Binary64 :=
  let (up, down) := powers (x.exponent - y.exponent)
  ofQuotient (x.negative != y.negative) (x.significand * up) (y.significand * down)

def powerOfTen (k : Nat) : Binary64 := (ofNat (Nat.pow 10 k)).getD zero

end Binary64
end ChaincodeConsole
