import ChaincodeConsole.Decimal.Binary64
import Mathlib.Algebra.Order.Field.Basic
import Mathlib.Algebra.Order.Field.Power
import Mathlib.Data.Nat.Log
import Mathlib.Tactic.FieldSimp
import Mathlib.Tactic.GCongr
import Mathlib.Tactic.Linarith
import Mathlib.Tactic.NormNum
import Mathlib.Tactic.Positivity
import Mathlib.Tactic.Ring

/-! The range of the format. A quotient has a nearest number exactly below the midpoint that
follows the largest one, products and quotients of numbers alike; and what a quotient is rounded
to is at most twice and at least half as large, up to one. -/
namespace ChaincodeConsole.Binary64

def magnitude (x : Binary64) : ℚ := x.significand * 2 ^ x.exponent

/-- Half a unit beyond the largest finite number. -/
def limit : ℚ := 2 ^ 1024 - 2 ^ 970

theorem roundDivNear (num : Nat) {den : Nat} (positive : 0 < den) :
    2 * num ≤ (2 * roundDiv num den + 1) * den ∧ 2 * roundDiv num den * den ≤ 2 * num + den ∧
      (2 * num = (2 * roundDiv num den + 1) * den → roundDiv num den % 2 = 0) := by
  have parts := Nat.div_add_mod num den
  have small := Nat.mod_lt num positive
  simp only [roundDiv]
  generalize num / den = q at *
  generalize num % den = r at *
  subst parts
  split
  · refine ⟨by linarith, by linarith, fun tie => ?_⟩
    nlinarith
  · split
    · refine ⟨by linarith, by linarith, fun tie => ?_⟩
      nlinarith
    · split
      · refine ⟨by linarith, by linarith, fun _ => by assumption⟩
      · refine ⟨by linarith, by linarith, fun tie => ?_⟩
        nlinarith

theorem roundDivRatio {num den : Nat} (positive : 0 < den) :
    (num / den : ℚ) ≤ roundDiv num den + 1 / 2 ∧ (roundDiv num den : ℚ) ≤ num / den + 1 / 2 ∧
      ((num / den : ℚ) = roundDiv num den + 1 / 2 → roundDiv num den % 2 = 0) := by
  obtain ⟨low, high, tie⟩ := roundDivNear num positive
  have pos : (0 : ℚ) < den := by exact_mod_cast positive
  refine ⟨?_, ?_, ?_⟩
  · rw [div_le_iff₀ pos]
    have cast : (2 * num : ℚ) ≤ (2 * roundDiv num den + 1) * den := by exact_mod_cast low
    linarith
  · rw [← sub_le_iff_le_add, le_div_iff₀ pos]
    have cast : (2 * roundDiv num den * den : ℚ) ≤ 2 * num + den := by exact_mod_cast high
    linarith
  · intro half
    apply tie
    rw [div_eq_iff pos.ne'] at half
    have cast : (2 * num : ℚ) = (2 * roundDiv num den + 1) * den := by linarith
    exact_mod_cast cast

theorem scaledNear (num : Nat) {den : Nat} (positive : 0 < den) (e : Int) :
    (num / den : ℚ) / 2 ^ e ≤ scaled num den e + 1 / 2 ∧
      (scaled num den e : ℚ) ≤ (num / den : ℚ) / 2 ^ e + 1 / 2 ∧
      ((num / den : ℚ) / 2 ^ e = scaled num den e + 1 / 2 → scaled num den e % 2 = 0) := by
  unfold scaled
  split
  · rename_i up
    have same : (num / den : ℚ) / 2 ^ e = num / ((den * Nat.pow 2 e.toNat : Nat) : ℚ) := by
      obtain ⟨k, rfl⟩ := Int.eq_ofNat_of_zero_le up
      simp [div_div]
    rw [same]
    exact roundDivRatio (by simp [positive])
  · rename_i down
    have same : (num / den : ℚ) / 2 ^ e = ((num * Nat.pow 2 (-e).toNat : Nat) : ℚ) / den := by
      obtain ⟨k, negative⟩ := Int.eq_ofNat_of_zero_le (show 0 ≤ -e by omega)
      rw [show e = -(k : Int) by omega]
      simp
      ring
    rw [same]
    exact roundDivRatio positive

theorem belowPower (num : Nat) {den : Nat} (positive : 0 < den) (guess : Int) :
    (if 0 ≤ guess then decide (num < den * Nat.pow 2 (guess.toNat + 52))
      else decide (num * Nat.pow 2 (-guess).toNat < den * Nat.pow 2 52)) = true ↔
      (num / den : ℚ) < 2 ^ (guess + 52) := by
  have pos : (0 : ℚ) < den := by exact_mod_cast positive
  rw [div_lt_iff₀ pos]
  split
  · rename_i up
    obtain ⟨k, same⟩ := Int.eq_ofNat_of_zero_le up
    simp only [same, decide_eq_true_eq, Int.toNat_natCast, Nat.pow_eq]
    rw [← Nat.cast_lt (α := ℚ), mul_comm (2 ^ _ : ℚ)]
    push_cast
    rfl
  · rename_i down
    obtain ⟨k, same⟩ := Int.eq_ofNat_of_zero_le (show 0 ≤ -guess by omega)
    have power : (2 : ℚ) ^ (guess + 52) = 2 ^ 52 / 2 ^ k := by
      rw [show guess + 52 = (52 : Int) - k by omega, zpow_sub₀ (by norm_num), zpow_natCast]
      rfl
    simp only [same, decide_eq_true_eq, Int.toNat_natCast, Nat.pow_eq]
    rw [power, div_mul_eq_mul_div, lt_div_iff₀ (by positivity), ← Nat.cast_lt (α := ℚ),
      mul_comm (2 ^ 52 : ℚ)]
    push_cast
    rfl

theorem unitExponentBounds {num den : Nat} (nonzero : num ≠ 0) (positive : 0 < den) :
    (2 : ℚ) ^ (unitExponent num den + 52) ≤ num / den ∧
      (num / den : ℚ) < 2 ^ (unitExponent num den + 53) := by
  have pos : (0 : ℚ) < den := by exact_mod_cast positive
  have lowNum : (2 : ℚ) ^ (Nat.log2 num : Int) ≤ num := by
    exact_mod_cast Nat.log2_self_le nonzero
  have highNum : (num : ℚ) < 2 ^ ((Nat.log2 num : Int) + 1) := by
    exact_mod_cast Nat.lt_log2_self (n := num)
  have lowDen : (2 : ℚ) ^ (Nat.log2 den : Int) ≤ den := by
    exact_mod_cast Nat.log2_self_le positive.ne'
  have highDen : (den : ℚ) < 2 ^ ((Nat.log2 den : Int) + 1) := by
    exact_mod_cast Nat.lt_log2_self (n := den)
  unfold unitExponent
  generalize hg : (Nat.log2 num : Int) - (Nat.log2 den : Int) - 52 = guess
  have below := belowPower num positive guess
  have low : (2 : ℚ) ^ (guess + 51) ≤ num / den := by
    rw [le_div_iff₀ pos]
    calc (2 : ℚ) ^ (guess + 51) * den
        ≤ 2 ^ (guess + 51) * 2 ^ ((Nat.log2 den : Int) + 1) := by gcongr
      _ = 2 ^ (Nat.log2 num : Int) := by
          rw [← zpow_add₀ (by norm_num)]
          congr 1
          omega
      _ ≤ num := lowNum
  have high : (num / den : ℚ) < 2 ^ (guess + 53) := by
    rw [div_lt_iff₀ pos]
    calc (num : ℚ) < 2 ^ ((Nat.log2 num : Int) + 1) := highNum
      _ = 2 ^ (guess + 53) * 2 ^ (Nat.log2 den : Int) := by
          rw [← zpow_add₀ (by norm_num)]
          congr 1
          omega
      _ ≤ 2 ^ (guess + 53) * den := by gcongr
  dsimp only
  generalize (if 0 ≤ guess then decide (num < den * Nat.pow 2 (guess.toNat + 52))
    else decide (num * Nat.pow 2 (-guess).toNat < den * Nat.pow 2 52)) = small at below ⊢
  cases small with
  | true =>
    rw [if_pos rfl, show guess - 1 + 52 = guess + 51 by omega,
      show guess - 1 + 53 = guess + 52 by omega]
    exact ⟨low, below.mp rfl⟩
  | false =>
    rw [if_neg Bool.false_ne_true]
    exact ⟨not_lt.mp fun small => Bool.false_ne_true (below.mpr small), high⟩

def unitOf (num den : Nat) : Int := max (unitExponent num den) leastExponent

theorem ofQuotientCases (negative : Bool) {num : Nat} (den : Nat) (nonzero : num ≠ 0) :
    (ofQuotient negative num den = none ↔ greatestExponent < unitOf num den ∨
      (unitOf num den = greatestExponent ∧ scaled num den (unitOf num den) = 2 ^ 53)) ∧
    ∀ z, ofQuotient negative num den = some z →
      z.magnitude = scaled num den (unitOf num den) * 2 ^ unitOf num den := by
  have unit : max (unitExponent num den) leastExponent = unitOf num den := rfl
  simp only [ofQuotient, if_neg nonzero, unit]
  generalize unitOf num den = e
  by_cases full : scaled num den e = 2 ^ 53
  · simp only [Nat.pow_eq, full, if_true, and_true]
    constructor
    · rw [ite_eq_left_iff]
      simp only [reduceCtorEq, imp_false, not_not]
      omega
    · intro z found
      split at found
      · contradiction
      · cases found
        simp only [magnitude]
        rw [zpow_add₀ (by norm_num), zpow_one]
        push_cast
        ring
  · simp only [Nat.pow_eq, full, if_false, and_false, or_false]
    constructor
    · rw [ite_eq_left_iff]
      simp
    · intro z found
      split at found
      · contradiction
      · cases found
        rfl

theorem unitOfBounds {num den : Nat} (nonzero : num ≠ 0) (positive : 0 < den) :
    (2 : ℚ) ^ unitOf num den ≤ (num / den : ℚ) + 1 ∧
      (num / den : ℚ) < 2 ^ (unitOf num den + 53) := by
  obtain ⟨low, high⟩ := unitExponentBounds nonzero positive
  have positive : (0 : ℚ) ≤ num / den := by positivity
  constructor
  · rcases max_choice (unitExponent num den) leastExponent with same | same
    · rw [unitOf, same]
      calc (2 : ℚ) ^ unitExponent num den ≤ 2 ^ (unitExponent num den + 52) :=
            zpow_le_zpow_right₀ (by norm_num) (by omega)
        _ ≤ num / den + 1 := by linarith
    · rw [unitOf, same]
      have tiny : (2 : ℚ) ^ leastExponent ≤ 1 := zpow_le_one_of_nonpos₀ (by norm_num) (by decide)
      linarith
  · refine high.trans_le (zpow_le_zpow_right₀ (by norm_num) ?_)
    unfold unitOf
    omega

theorem limitUnits : limit = (2 ^ 53 - 1 / 2) * 2 ^ greatestExponent := by
  have top : (2 : ℚ) ^ 1024 = 2 ^ 54 * 2 ^ 970 := by rw [← pow_add]
  have unit : (2 : ℚ) ^ greatestExponent = 2 * 2 ^ 970 := by
    rw [show greatestExponent = ((970 + 1 : Nat) : Int) from rfl, zpow_natCast, pow_succ']
  rw [limit, top, unit]
  generalize (2 : ℚ) ^ 970 = step
  ring

theorem limitBounds : (2 : ℚ) ^ (1023 : Int) ≤ limit ∧ limit ≤ 2 ^ (1024 : Int) := by
  have top : (2 : ℚ) ^ (1024 : Int) = 2 ^ 53 * 2 ^ greatestExponent := by
    rw [← zpow_natCast, ← zpow_add₀ (by norm_num)]
    rfl
  have half : (2 : ℚ) ^ (1023 : Int) = 2 ^ 52 * 2 ^ greatestExponent := by
    rw [← zpow_natCast, ← zpow_add₀ (by norm_num)]
    rfl
  have unit : (0 : ℚ) < 2 ^ greatestExponent := by positivity
  rw [limitUnits, top, half]
  generalize (2 : ℚ) ^ greatestExponent = u at unit
  constructor <;> linarith

theorem twoBelowLimit {k : Nat} (small : k < 1023) : (2 : ℚ) ^ k < limit := by
  refine lt_of_lt_of_le ?_ limitBounds.1
  rw [← zpow_natCast]
  exact zpow_lt_zpow_right₀ (by norm_num) (by omega)

theorem ofQuotientSome (negative : Bool) (num : Nat) {den : Nat} (positive : 0 < den) :
    (ofQuotient negative num den).isSome ↔ (num / den : ℚ) < limit := by
  by_cases nonzero : num = 0
  · have wide : (0 : ℚ) < limit := lt_of_lt_of_le (by positivity) limitBounds.1
    simp [ofQuotient, nonzero, wide]
  · rw [← not_iff_not, Option.not_isSome_iff_eq_none, (ofQuotientCases negative den nonzero).1,
      not_lt]
    obtain ⟨low, -⟩ := unitExponentBounds nonzero positive
    obtain ⟨-, high⟩ := unitOfBounds nonzero positive
    obtain ⟨atMost, atLeast, tie⟩ := scaledNear num positive (unitOf num den)
    have unit : unitOf num den = max (unitExponent num den) (-1074) := rfl
    generalize unitOf num den = e at *
    generalize (num / den : ℚ) = q at *
    constructor
    · rintro (beyond | ⟨rfl, full⟩)
      · have exact : 1024 ≤ unitExponent num den + 52 := by
          simp only [greatestExponent] at beyond
          omega
        exact limitBounds.2.trans ((zpow_le_zpow_right₀ (by norm_num) exact).trans low)
      · rw [full] at atLeast
        push_cast at atLeast
        rw [limitUnits, ← le_div_iff₀ (by positivity)]
        linarith
    · intro large
      have reach : greatestExponent ≤ e := by
        by_contra short
        have few : (2 : ℚ) ^ (e + 53) ≤ 2 ^ (1023 : Int) := by
          refine zpow_le_zpow_right₀ (by norm_num) ?_
          simp only [greatestExponent] at short
          omega
        exact absurd (large.trans_lt (high.trans_le few)) (not_lt.mpr limitBounds.1)
      rcases reach.lt_or_eq with beyond | rfl
      · exact .inl beyond
      · refine .inr ⟨rfl, ?_⟩
        rw [limitUnits, ← le_div_iff₀ (by positivity)] at large
        rw [zpow_add₀ (by norm_num), mul_comm, ← div_lt_iff₀ (by positivity)] at high
        generalize q / 2 ^ greatestExponent = ratio at *
        generalize scaled num den greatestExponent = units at *
        have most : units ≤ 2 ^ 53 := by
          have bounded : ratio < 2 ^ 53 := by exact_mod_cast high
          have cast : (units : ℚ) < 2 ^ 53 + 1 := by linarith
          have whole : units < 2 ^ 53 + 1 := by exact_mod_cast cast
          omega
        have least : 2 ^ 53 - 1 ≤ units := by
          have cast : (2 ^ 53 : ℚ) ≤ units + 1 := by linarith
          have whole : 2 ^ 53 ≤ units + 1 := by exact_mod_cast cast
          omega
        -- The other candidate is odd and would have to be a tie, which rounds to even.
        by_contra other
        have odd : units = 2 ^ 53 - 1 := by omega
        subst odd
        have half : ratio = ((2 ^ 53 - 1 : Nat) : ℚ) + 1 / 2 := by
          refine le_antisymm atMost ?_
          norm_num at large ⊢
          linarith
        exact absurd (tie half) (by norm_num)

theorem ofQuotientNear {negative : Bool} {num den : Nat} (positive : 0 < den) {z : Binary64}
    (found : ofQuotient negative num den = some z) :
    z.magnitude ≤ 2 * (num / den) + 1 ∧ (num / den : ℚ) / 2 - 1 / 2 ≤ z.magnitude := by
  by_cases nonzero : num = 0
  · simp only [ofQuotient, nonzero, if_true, Option.some.injEq] at found
    subst found
    simp [magnitude, nonzero]
  · rw [(ofQuotientCases negative den nonzero).2 z found]
    obtain ⟨unit, -⟩ := unitOfBounds nonzero positive
    obtain ⟨atMost, atLeast, -⟩ := scaledNear num positive (unitOf num den)
    have power : (0 : ℚ) < 2 ^ unitOf num den := by positivity
    have ratio : (0 : ℚ) ≤ num / den := by positivity
    generalize (num / den : ℚ) = q at *
    generalize (2 : ℚ) ^ unitOf num den = u at *
    rw [div_le_iff₀ power] at atMost
    rw [← sub_le_iff_le_add, le_div_iff₀ power] at atLeast
    constructor <;> nlinarith

theorem powersRatio (e : Int) :
    0 < (powers e).2 ∧ ((powers e).1 / (powers e).2 : ℚ) = 2 ^ e := by
  unfold powers
  split
  · rename_i up
    obtain ⟨k, rfl⟩ := Int.eq_ofNat_of_zero_le up
    simp
  · rename_i down
    obtain ⟨k, negative⟩ := Int.eq_ofNat_of_zero_le (show 0 ≤ -e by omega)
    rw [show e = -(k : Int) by omega]
    simp

theorem magnitudeNonneg (x : Binary64) : 0 ≤ x.magnitude := by
  unfold magnitude
  positivity

theorem magnitudeOfPositive {x : Binary64} (positive : 0 < x.magnitude) : 0 < x.significand := by
  rcases Nat.eq_zero_or_pos x.significand with zero | positive
  · simp [magnitude, zero] at positive
  · exact positive

theorem mulSome (x y : Binary64) : (x.mul y).isSome ↔ x.magnitude * y.magnitude < limit := by
  obtain ⟨positive, ratio⟩ := powersRatio (x.exponent + y.exponent)
  simp only [mul]
  rw [ofQuotientSome _ _ positive]
  push_cast
  rw [mul_div_assoc, ratio, zpow_add₀ (by norm_num), magnitude, magnitude]
  ring_nf

theorem divRatio (x : Binary64) {y : Binary64} (nonzero : 0 < y.magnitude) :
    ∃ negative num den, x.div y = ofQuotient negative num den ∧ 0 < den ∧
      (num / den : ℚ) = x.magnitude / y.magnitude := by
  obtain ⟨positive, ratio⟩ := powersRatio (x.exponent - y.exponent)
  refine ⟨x.negative != y.negative, x.significand * (powers (x.exponent - y.exponent)).1,
    y.significand * (powers (x.exponent - y.exponent)).2, rfl,
    Nat.mul_pos (magnitudeOfPositive nonzero) positive, ?_⟩
  push_cast
  rw [mul_div_mul_comm, ratio, zpow_sub₀ (by norm_num), magnitude, magnitude, div_mul_div_comm]

theorem divDown {x y : Binary64} (inRange : x.magnitude < limit) (above : 1 ≤ y.magnitude) :
    ∃ z, x.div y = some z ∧ z.magnitude ≤ 2 * (x.magnitude / y.magnitude) + 1 := by
  obtain ⟨negative, num, den, same, positive, ratio⟩ := divRatio x (by linarith)
  have less : x.magnitude / y.magnitude ≤ x.magnitude :=
    div_le_self x.magnitudeNonneg above
  have defined := (ofQuotientSome negative num positive).mpr (by rw [ratio]; linarith)
  obtain ⟨z, found⟩ := Option.isSome_iff_exists.mp defined
  refine ⟨z, same.trans found, ?_⟩
  rw [← ratio]
  exact (ofQuotientNear positive found).1

theorem ofNatNear {n : Nat} (inRange : (n : ℚ) < limit) :
    ∃ z, ofNat n = some z ∧ z.magnitude ≤ 2 * n + 1 ∧ (n : ℚ) / 2 - 1 / 2 ≤ z.magnitude := by
  have defined := (ofQuotientSome false n Nat.one_pos).mpr (by simpa using inRange)
  obtain ⟨z, found⟩ := Option.isSome_iff_exists.mp defined
  obtain ⟨high, low⟩ := ofQuotientNear Nat.one_pos found
  exact ⟨z, found, by simpa using high, by simpa using low⟩

theorem powerBelowLimit {k : Nat} (small : k ≤ 308) : ((10 ^ k : Nat) : ℚ) < limit := by
  have bound : 10 ^ 308 < 3 * 2 ^ 51 * 2 ^ 971 := by decide +kernel
  have grown : 10 ^ k ≤ 10 ^ 308 := by gcongr; norm_num
  have unit : ((2 ^ 971 : Nat) : ℚ) = 2 ^ greatestExponent := by
    rw [show greatestExponent = ((971 : Nat) : Int) from rfl, zpow_natCast, Nat.cast_pow]
    rfl
  have cast : ((10 ^ k : Nat) : ℚ) < ((3 * 2 ^ 51 * 2 ^ 971 : Nat) : ℚ) :=
    Nat.cast_lt.mpr (grown.trans_lt bound)
  rw [Nat.cast_mul, unit] at cast
  refine cast.trans_le ?_
  rw [limitUnits]
  have positive : (0 : ℚ) < 2 ^ greatestExponent := by positivity
  generalize (2 : ℚ) ^ greatestExponent = u at positive
  push_cast
  linarith

theorem powerOfTenNear {k : Nat} (small : k ≤ 308) :
    (powerOfTen k).magnitude ≤ 2 * 10 ^ k + 1 ∧
      (10 ^ k : ℚ) / 2 - 1 / 2 ≤ (powerOfTen k).magnitude := by
  obtain ⟨z, found, high, low⟩ := ofNatNear (powerBelowLimit small)
  rw [powerOfTen, show Nat.pow 10 k = 10 ^ k from rfl, found, Option.getD_some]
  push_cast at high low
  exact ⟨high, low⟩

theorem powerOfTenMonotone {j k : Nat} (less : j ≤ k) (small : k ≤ 308) :
    (powerOfTen j).magnitude ≤ (powerOfTen k).magnitude := by
  rcases less.lt_or_eq with less | rfl
  · obtain ⟨high, -⟩ := powerOfTenNear (less.le.trans small)
    obtain ⟨-, low⟩ := powerOfTenNear small
    have step : (10 ^ (j + 1) : ℚ) ≤ 10 ^ k := pow_le_pow_right₀ (by norm_num) less
    have one : (1 : ℚ) ≤ 10 ^ j := one_le_pow₀ (by norm_num)
    rw [pow_succ] at step
    linarith
  · exact le_rfl

theorem powerOfTenAbove {k : Nat} (positive : 0 < k) (small : k ≤ 308) :
    1 ≤ (powerOfTen k).magnitude := by
  obtain ⟨-, low⟩ := powerOfTenNear small
  have ten : (10 ^ 1 : ℚ) ≤ 10 ^ k := pow_le_pow_right₀ (by norm_num) positive
  linarith

end ChaincodeConsole.Binary64
