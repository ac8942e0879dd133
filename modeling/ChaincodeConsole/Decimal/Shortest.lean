import ChaincodeConsole.Decimal.Binary64

/-!
The shortest decimal of a binary number: of all decimals that round back to it, one with the
fewest digits, and of these the nearest. The decimals that round back to a number form an
interval around it, closed at its ends if the significand is even; both ends, and the grid of
decimals with a given number of digits, are compared exactly.
-/
namespace ChaincodeConsole

structure Decimal where
  coefficient : Nat
  exponent : Int
  deriving DecidableEq, Repr

namespace Decimal

def power (base : Nat) (e : Int) : Nat × Nat :=
  if 0 ≤ e then (Nat.pow base e.toNat, 1) else (1, Nat.pow base (-e).toNat)

def strip : Nat → Decimal → Decimal
  | 0, d => d
  | fuel + 1, d =>
    if d.coefficient ≠ 0 ∧ d.coefficient % 10 = 0 then
      strip fuel ⟨d.coefficient / 10, d.exponent + 1⟩
    else d

/-- An interval of reals in quarters of a power of two, with its centre. -/
structure Interval where
  low : Nat
  centre : Nat
  high : Nat
  closed : Bool
  quarter : Int
  deriving DecidableEq, Repr

/-- The reals that round to `significand · 2 ^ exponent`. The gap below a power of two
is half as wide as the one above it. -/
def roundingInterval (x : Binary64) : Interval :=
  let below := if x.significand = Nat.pow 2 52 ∧ x.exponent ≠ Binary64.leastExponent then 1 else 2
  ⟨4 * x.significand - below, 4 * x.significand, 4 * x.significand + 2,
    x.significand % 2 == 0, x.exponent - 2⟩

def sides (i : Interval) (k : Int) (c a : Nat) : Nat × Nat :=
  let (tenUp, tenDown) := power 10 k
  let (twoUp, twoDown) := power 2 i.quarter
  (c * tenUp * twoDown, a * twoUp * tenDown)

def Interval.contains (i : Interval) (k : Int) (c : Nat) : Bool :=
  let (l, l') := sides i k c i.low
  let (h, h') := sides i k c i.high
  if i.closed then l' ≤ l && h ≤ h' else l' < l && h < h'

def Interval.floor (i : Interval) (k : Int) : Nat :=
  let (unit, centre) := sides i k 1 i.centre
  centre / unit

/-- Compares the distances from the centre to `c` and to `c + 1`: the lower one is to be
taken if it is nearer, or as near and even. -/
def Interval.prefersLower (i : Interval) (k : Int) (c : Nat) : Bool :=
  let (twice, centre) := sides i k (2 * c + 1) (2 * i.centre)
  centre < twice || (centre == twice && c % 2 == 0)

def Interval.best? (i : Interval) (k : Int) : Option Nat :=
  let c := i.floor k
  match i.contains k c, i.contains k (c + 1) with
  | true, true => some (if i.prefersLower k c then c else c + 1)
  | true, false => some c
  | false, true => some (c + 1)
  | false, false => none

def Interval.leading (i : Interval) : Int :=
  let guess : Int := (((Nat.log2 i.centre : Int) + i.quarter) * 30103) / 100000
  let reaches (e : Int) : Bool := let (l, l') := sides i e 1 i.centre; l ≤ l'
  if reaches (guess + 1) then guess + 1 else if reaches guess then guess else guess - 1

def Interval.search (i : Interval) (leading : Int) : Nat → Nat → Decimal
  | 0, digits => ⟨i.floor (leading - digits), leading - digits⟩
  | left + 1, digits =>
    let k := leading - digits
    match i.best? k with
    | some c => ⟨c, k⟩
    | none => i.search leading left (digits + 1)

def shortest (x : Binary64) : Decimal :=
  if x.isZero then ⟨0, 0⟩
  else
    let i := roundingInterval x
    strip 20 (i.search i.leading 17 0)

end Decimal
end ChaincodeConsole
