import ChaincodeConsole.Json.Basic
import ChaincodeConsole.Json.Fault

/-!
Number tokens, read one character at a time. The digits are gathered in a significand below
`2 ^ 64`; digits that no longer fit count for the exponent before the point and for nothing
behind it. A floating number is the significand rounded, then multiplied or divided by a
rounded power of ten, so its last digit need not be the nearest.
-/
namespace ChaincodeConsole.Json

def significandLimit : Nat := 18446744073709551615

/-- How far a number token has come. `scale` is the power of ten of the significand so far. -/
inductive NumeralPhase where
  | sign
  | zero
  | whole
  | wholeFull (dropped : Nat)
  | point (scale : Int)
  | fraction (scale : Int)
  | fractionFull (scale : Int)
  | mark (scale : Int)
  | markSign (scale : Int) (down : Bool)
  | power (scale : Int) (down : Bool) (value : Nat)
  | powerFull
  deriving DecidableEq, Repr

structure Numeral where
  negative : Bool
  significand : Nat
  phase : NumeralPhase
  deriving DecidableEq, Repr

def powerLimit : Nat := 2147483647

def finalExponent (scale : Int) (down : Bool) (value : Nat) : Int :=
  let e := if down then scale - value else scale + value
  max (-2147483648) (min 2147483647 e)

/-- Scales a rounded significand by a power of ten; `none` means out of range.
Exponents below -308 take more than one division. -/
def scale (fuel : Nat) (x : Binary64) (exponent : Int) : Option Binary64 :=
  if exponent.natAbs ≤ 308 then
    let ten := Binary64.powerOfTen exponent.natAbs
    if 0 ≤ exponent then x.mul ten else x.div ten
  else if x.isZero then some x
  else if 0 ≤ exponent then none
  else
    match fuel with
    | 0 => some x
    | fuel + 1 =>
      match x.div (Binary64.powerOfTen 308) with
      | some y => scale fuel y (exponent + 308)
      | none => none

namespace Numeral

def floating (n : Numeral) (exponent : Int) : Except Fault Number :=
  match (Binary64.ofNat n.significand).bind (scale 4 · exponent) with
  | some x => .ok (.floating { x with negative := n.negative })
  | none => .error .numberOutOfRange

/-- An integer; beyond its range, and for minus zero, the floating number. -/
def integer (n : Numeral) : Number :=
  if !n.negative then .natural n.significand
  else if n.significand ≠ 0 ∧ n.significand ≤ 9223372036854775808 then .negative n.significand
  else .floating { (Binary64.ofNat n.significand).getD .zero with negative := true }

def value? (n : Numeral) : Option (Except Fault Number) :=
  match n.phase with
  | .sign | .point _ | .mark _ | .markSign _ _ => none
  | .zero | .whole => some (.ok n.integer)
  | .wholeFull dropped => some (n.floating dropped)
  | .fraction s | .fractionFull s => some (n.floating s)
  | .power s down value => some (n.floating (finalExponent s down value))
  | .powerFull => some (.ok (.floating ⟨n.negative, 0, Binary64.leastExponent⟩))

inductive Step where
  | more (n : Numeral)
  | past
  | stop (s : Stop)

def digit? (c : Char) : Option Nat := if c.isDigit then some (c.toNat - 48) else none

def gather (n : Numeral) (d : Nat) : Option Nat :=
  let s := n.significand * 10 + d
  if s ≤ significandLimit then some s else none

def isMark (c : Char) : Bool := c == 'e' || c == 'E'

def invalid : Step := .stop ⟨.invalidNumber, 1⟩

def afterWhole (n : Numeral) (scale : Int) (c : Char) : Step :=
  if c = '.' then .more { n with phase := .point scale }
  else if isMark c then .more { n with phase := .mark scale }
  else .past

def afterFraction (n : Numeral) (scale : Int) (c : Char) : Step :=
  if isMark c then .more { n with phase := .mark scale } else .past

def fractionDigit (n : Numeral) (scale : Int) (d : Nat) : Step :=
  match n.gather d with
  | some s => .more { n with significand := s, phase := .fraction (scale - 1) }
  | none => .more { n with phase := .fractionFull scale }

def step (n : Numeral) (c : Char) : Step :=
  match n.phase, digit? c with
  | .sign, some d => .more ⟨n.negative, d, if d = 0 then .zero else .whole⟩
  | .sign, none => invalid
  | .zero, some _ => invalid
  | .zero, none => n.afterWhole 0 c
  | .whole, some d =>
    match n.gather d with
    | some s => .more { n with significand := s }
    | none => .more { n with phase := .wholeFull 1 }
  | .whole, none => n.afterWhole 0 c
  | .wholeFull k, some _ => .more { n with phase := .wholeFull (k + 1) }
  | .wholeFull k, none => n.afterWhole k c
  | .point s, some d => n.fractionDigit s d
  | .point _, none => invalid
  | .fraction s, some d => n.fractionDigit s d
  | .fraction s, none => n.afterFraction s c
  | .fractionFull s, some _ => .more { n with phase := .fractionFull s }
  | .fractionFull s, none => n.afterFraction s c
  | .mark s, some d => .more { n with phase := .power s false d }
  | .mark s, none =>
    if c = '+' then .more { n with phase := .markSign s false }
    else if c = '-' then .more { n with phase := .markSign s true }
    else invalid
  | .markSign s down, some d => .more { n with phase := .power s down d }
  | .markSign _ _, none => invalid
  | .power s down v, some d =>
    if v * 10 + d ≤ powerLimit then .more { n with phase := .power s down (v * 10 + d) }
    else if n.significand = 0 ∨ down then .more { n with phase := .powerFull }
    else .stop ⟨.numberOutOfRange, 1⟩
  | .power _ _ _, none => .past
  | .powerFull, some _ => .more n
  | .powerFull, none => .past

def open? (c : Char) : Option Numeral :=
  if c = '-' then some ⟨true, 0, .sign⟩
  else (digit? c).map fun d => ⟨false, d, if d = 0 then .zero else .whole⟩

end Numeral
end ChaincodeConsole.Json
