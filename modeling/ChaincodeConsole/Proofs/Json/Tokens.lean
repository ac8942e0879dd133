import ChaincodeConsole.Json.Completion
import ChaincodeConsole.Json.Numeral
import ChaincodeConsole.Proofs.Decimal.Range

/-! Number tokens that break off. A token in reading has a bounded power of ten, its last
characters tell what is missing of it, and a digit nought makes it a number, which is in range
if the token is short. -/
namespace ChaincodeConsole.Json

theorem scaleNear {x : Binary64} {fuel : Nat} {e : Int} (inRange : x.magnitude < Binary64.limit)
    (negative : e < 0) (near : e.natAbs ≤ 308) : (scale fuel x e).isSome := by
  obtain ⟨z, found, -⟩ := Binary64.divDown inRange
    (Binary64.powerOfTenAbove (k := e.natAbs) (by omega) near)
  unfold scale
  rw [if_pos near]
  simp only [if_neg (show ¬0 ≤ e by omega), found, Option.isSome_some]

theorem scaleDown {x : Binary64} {fuel : Nat} {e : Int} (small : x.magnitude ≤ 2 ^ 66)
    (negative : e < 0) : (scale fuel x e).isSome := by
  have inRange : x.magnitude < Binary64.limit := small.trans_lt (Binary64.twoBelowLimit (by omega))
  induction fuel generalizing x e with
  | zero =>
    by_cases near : e.natAbs ≤ 308
    · exact scaleNear inRange negative near
    · unfold scale
      simp only [if_neg near, if_neg (show ¬0 ≤ e by omega)]
      split <;> rfl
  | succ fuel ih =>
    by_cases near : e.natAbs ≤ 308
    · exact scaleNear inRange negative near
    · unfold scale
      simp only [if_neg near, if_neg (show ¬0 ≤ e by omega)]
      split
      · rfl
      · -- A division by ten to the 308th keeps the number small.
        obtain ⟨y, found, high⟩ := Binary64.divDown inRange
          (Binary64.powerOfTenAbove (k := 308) (by omega) le_rfl)
        have ten : 4 ≤ (Binary64.powerOfTen 308).magnitude := by
          have low := (Binary64.powerOfTenNear (k := 1) (by omega)).2
          have grown := Binary64.powerOfTenMonotone (j := 1) (k := 308) (by omega) le_rfl
          norm_num at low
          linarith
        have quarter : x.magnitude / (Binary64.powerOfTen 308).magnitude ≤ x.magnitude / 4 :=
          div_le_div_of_nonneg_left x.magnitudeNonneg (by norm_num) ten
        have less : y.magnitude ≤ 2 ^ 66 := by
          norm_num at small ⊢
          linarith
        rw [found]
        exact ih less (by omega) (less.trans_lt (Binary64.twoBelowLimit (by omega)))

theorem scaleUp {x : Binary64} {fuel : Nat} {e : Int} (small : x.magnitude ≤ 2 ^ 66)
    (up : 0 ≤ e) (near : e ≤ 281) : (scale fuel x e).isSome := by
  have close : e.natAbs ≤ 308 := by omega
  have power : (Binary64.powerOfTen e.natAbs).magnitude ≤ 2 ^ 939 := by
    have high := (Binary64.powerOfTenNear close).1
    have grown : (10 : ℚ) ^ e.natAbs ≤ 10 ^ 281 := pow_le_pow_right₀ (by norm_num) (by omega)
    have two : (10 : ℚ) ^ 281 ≤ 2 ^ 937 :=
      calc (10 : ℚ) ^ 281 = 10 ^ 2 * (10 ^ 3) ^ 93 := by rw [← pow_mul, ← pow_add]
        _ ≤ 2 ^ 7 * (2 ^ 10) ^ 93 := by gcongr <;> norm_num
        _ = 2 ^ 937 := by rw [← pow_mul, ← pow_add]
    have one : (1 : ℚ) ≤ 2 ^ 937 := one_le_pow₀ (by norm_num)
    rw [show 939 = 937 + 2 from rfl, pow_add]
    generalize (2 : ℚ) ^ 937 = step at two one
    have most := grown.trans two
    linarith only [high, most, one]
  unfold scale
  rw [if_pos close]
  simp only [if_pos up]
  rw [Binary64.mulSome]
  calc x.magnitude * (Binary64.powerOfTen e.natAbs).magnitude
      ≤ 2 ^ 66 * 2 ^ 939 := mul_le_mul small power (Binary64.magnitudeNonneg _) (by norm_num)
    _ = 2 ^ 1005 := by rw [← pow_add]
    _ < Binary64.limit := Binary64.twoBelowLimit (by omega)

theorem scaleLess {x : Binary64} {fuel : Nat} {e f : Int} (up : 0 ≤ e) (less : e ≤ f)
    (defined : (scale fuel x f).isSome) : (scale fuel x e).isSome := by
  unfold scale at defined ⊢
  simp only [if_pos up, if_pos (up.trans less)] at defined ⊢
  by_cases far : f.natAbs ≤ 308
  · have near : e.natAbs ≤ 308 := by omega
    rw [if_pos far, Binary64.mulSome] at defined
    rw [if_pos near, Binary64.mulSome]
    refine lt_of_le_of_lt ?_ defined
    exact mul_le_mul_of_nonneg_left
      (Binary64.powerOfTenMonotone (by omega) far) x.magnitudeNonneg
  · rw [if_neg far] at defined
    have zero : x.isZero = true := by
      by_contra positive
      simp [positive] at defined
    rw [if_pos zero]
    split
    · have nothing : x.magnitude = 0 := by
        unfold Binary64.isZero at zero
        simp [Binary64.magnitude, eq_of_beq zero]
      rw [Binary64.mulSome, nothing, zero_mul]
      exact lt_of_lt_of_le (by positivity) Binary64.limitBounds.1
    · rfl

theorem literalRestPlain {c : Char} {rest : List Char} (plain : isLetter c = false) :
    literalRest (c :: rest) = numberRest (c :: rest) := by
  simp [literalRest, plain, wordRest?]

namespace Numeral

def digitScale? : NumeralPhase → Option Int
  | .zero | .whole => some 0
  | .wholeFull dropped => some dropped
  | .fraction s | .fractionFull s => some s
  | _ => none

inductive Extends : Numeral → Char → Numeral → Prop where
  | leading {sign : Bool} {k d : Nat} {c : Char} (digit : digit? c = some d) :
      Extends ⟨sign, k, .sign⟩ c ⟨sign, d, if d = 0 then .zero else .whole⟩
  | whole {sign : Bool} {k d t : Nat} {c : Char} (digit : digit? c = some d)
      (fits : t = k * 10 + d ∧ t ≤ significandLimit) :
      Extends ⟨sign, k, .whole⟩ c ⟨sign, t, .whole⟩
  | wholeFull {sign : Bool} {k d : Nat} {c : Char} (digit : digit? c = some d)
      (full : significandLimit < k * 10 + d) :
      Extends ⟨sign, k, .whole⟩ c ⟨sign, k, .wholeFull 1⟩
  | dropped {sign : Bool} {k d dropped : Nat} {c : Char} (digit : digit? c = some d) :
      Extends ⟨sign, k, .wholeFull dropped⟩ c ⟨sign, k, .wholeFull (dropped + 1)⟩
  | point {sign : Bool} {k : Nat} {phase : NumeralPhase} {s : Int}
      (scale : digitScale? phase = some s) : Extends ⟨sign, k, phase⟩ '.' ⟨sign, k, .point s⟩
  | fraction {sign : Bool} {k d t : Nat} {phase : NumeralPhase} {s : Int} {c : Char}
      (digit : digit? c = some d) (behind : phase = .point s ∨ phase = .fraction s)
      (fits : t ≤ significandLimit) : Extends ⟨sign, k, phase⟩ c ⟨sign, t, .fraction (s - 1)⟩
  | fractionFull {sign : Bool} {k d : Nat} {phase : NumeralPhase} {s : Int} {c : Char}
      (digit : digit? c = some d)
      (behind : phase = .point s ∨ phase = .fraction s ∨ phase = .fractionFull s) :
      Extends ⟨sign, k, phase⟩ c ⟨sign, k, .fractionFull s⟩
  | mark {sign : Bool} {k : Nat} {phase : NumeralPhase} {s : Int} {c : Char}
      (scale : digitScale? phase = some s) (mark : isMark c = true) :
      Extends ⟨sign, k, phase⟩ c ⟨sign, k, .mark s⟩
  | markSign {sign down : Bool} {k : Nat} {s : Int} {c : Char} (either : c = '+' ∨ c = '-') :
      Extends ⟨sign, k, .mark s⟩ c ⟨sign, k, .markSign s down⟩
  | power {sign down : Bool} {k d : Nat} {phase : NumeralPhase} {s : Int} {c : Char}
      (digit : digit? c = some d) (behind : phase = .mark s ∨ phase = .markSign s down) :
      Extends ⟨sign, k, phase⟩ c ⟨sign, k, .power s down d⟩
  | powerMore {sign down : Bool} {k d v : Nat} {s : Int} {c : Char}
      (digit : digit? c = some d) :
      Extends ⟨sign, k, .power s down v⟩ c ⟨sign, k, .power s down (v * 10 + d)⟩
  | powerFull {sign down : Bool} {k d v : Nat} {s : Int} {c : Char}
      (digit : digit? c = some d) (free : k = 0 ∨ down = true) :
      Extends ⟨sign, k, .power s down v⟩ c ⟨sign, k, .powerFull⟩
  | powerRest {sign : Bool} {k d : Nat} {c : Char} (digit : digit? c = some d) :
      Extends ⟨sign, k, .powerFull⟩ c ⟨sign, k, .powerFull⟩

theorem gatherCases (n : Numeral) (d : Nat) :
    (n.significand * 10 + d ≤ significandLimit ∧ n.gather d = some (n.significand * 10 + d)) ∨
      (significandLimit < n.significand * 10 + d ∧ n.gather d = none) := by
  simp only [gather]
  split
  · exact .inl ⟨by assumption, rfl⟩
  · exact .inr ⟨by omega, rfl⟩

theorem wholeExtends {n m : Numeral} {s : Int} {c : Char} (scale : digitScale? n.phase = some s)
    (more : n.afterWhole s c = .more m) : Extends n c m := by
  unfold afterWhole at more
  split at more
  · rename_i point
    subst point
    cases more
    exact .point scale
  · split at more
    · cases more
      exact .mark scale (by assumption)
    · cases more

theorem fractionExtends {n m : Numeral} {s : Int} {c : Char}
    (scale : digitScale? n.phase = some s) (more : n.afterFraction s c = .more m) :
    Extends n c m := by
  unfold afterFraction at more
  split at more
  · cases more
    exact .mark scale (by assumption)
  · cases more

theorem digitExtends {n m : Numeral} {s : Int} {d : Nat} {c : Char} (digit : digit? c = some d)
    (behind : n.phase = .point s ∨ n.phase = .fraction s) (more : n.fractionDigit s d = .more m) :
    Extends n c m := by
  unfold fractionDigit at more
  rcases gatherCases n d with ⟨fits, found⟩ | ⟨-, found⟩
  · rw [found] at more
    cases more
    exact .fraction digit behind fits
  · rw [found] at more
    cases more
    exact .fractionFull digit (behind.imp_right .inl)

theorem stepExtends {n m : Numeral} {c : Char} (more : n.step c = .more m) : Extends n c m := by
  obtain ⟨sign, k, phase⟩ := n
  unfold step at more
  cases digit : digit? c with
  | none =>
    rw [digit] at more
    cases phase <;> dsimp only [invalid] at more <;> try cases more
    case zero | whole | wholeFull => exact wholeExtends rfl more
    case fraction | fractionFull => exact fractionExtends rfl more
    case mark s =>
      split at more
      · cases more
        exact .markSign (.inl (by assumption))
      · split at more <;> cases more
        exact .markSign (.inr (by assumption))
  | some d =>
    rw [digit] at more
    cases phase <;> dsimp only [invalid] at more
    case zero => cases more
    case whole =>
      rcases gatherCases ⟨sign, k, .whole⟩ d with ⟨fits, found⟩ | ⟨full, found⟩
      · rw [found] at more
        cases more
        exact .whole digit ⟨rfl, fits⟩
      · rw [found] at more
        cases more
        exact .wholeFull digit full
    case point => exact digitExtends digit (.inl rfl) more
    case fraction => exact digitExtends digit (.inr rfl) more
    case power s down v =>
      split at more
      · cases more
        exact .powerMore digit
      · split at more <;> cases more
        exact .powerFull digit (by assumption)
    case sign =>
      cases more
      exact .leading digit
    case wholeFull =>
      cases more
      exact .dropped digit
    case fractionFull =>
      cases more
      exact .fractionFull digit (.inr (.inr rfl))
    case mark =>
      cases more
      exact .power digit (.inl rfl)
    case markSign =>
      cases more
      exact .power digit (.inr rfl)
    case powerFull =>
      cases more
      exact .powerRest digit

inductive Reads : List Char → Numeral → Prop where
  | first {c : Char} {n : Numeral} (opened : open? c = some n) : Reads [c] n
  | more {rev : List Char} {n m : Numeral} {c : Char} (read : Reads rev n)
      (step : n.step c = .more m) : Reads (c :: rev) m

/-- What a token of some length keeps: the significand fits, and a power of ten above nought
takes nineteen digits before it. -/
def Bounded (length : Nat) (n : Numeral) : Prop :=
  n.significand ≤ significandLimit ∧
    match n.phase with
    | .sign | .zero | .powerFull => True
    | .whole => n.significand < 10 ^ length
    | .wholeFull dropped => dropped + 19 ≤ length
    | .point s | .fraction s | .fractionFull s | .mark s | .markSign s _ | .power s _ _ =>
      s ≤ 0 ∨ s + 19 ≤ length

theorem digitLess {c : Char} {d : Nat} (digit : digit? c = some d) : d < 10 := by
  unfold digit? at digit
  split at digit
  · rename_i range
    simp only [Char.isDigit, ge_iff_le, Bool.and_eq_true, decide_eq_true_eq,
      UInt32.le_iff_toNat_le] at range
    cases digit
    have most : c.toNat ≤ 57 := range.2
    omega
  · cases digit

theorem leadingBounded {sign : Bool} {d length : Nat} {c : Char} (digit : digit? c = some d)
    (positive : 1 ≤ length) : Bounded length ⟨sign, d, if d = 0 then .zero else .whole⟩ := by
  have less := digitLess digit
  refine ⟨by simp only [significandLimit]; omega, ?_⟩
  by_cases zero : d = 0
  · simp [zero]
  · have grown : 10 ^ 1 ≤ 10 ^ length := Nat.pow_le_pow_right (by omega) positive
    simp only [if_neg zero]
    omega

theorem scaleBounded {n : Numeral} {length : Nat} {s : Int} (bounded : n.Bounded length)
    (scale : digitScale? n.phase = some s) : s ≤ 0 ∨ s + 19 ≤ length := by
  obtain ⟨sign, k, phase⟩ := n
  have kept := bounded.2
  cases phase <;> simp only [digitScale?, Option.some.injEq, reduceCtorEq] at scale kept
  all_goals omega

theorem boundedExtends {n m : Numeral} {c : Char} {length : Nat} (bounded : n.Bounded length)
    (more : Extends n c m) : m.Bounded (length + 1) := by
  have later {s : Int} (kept : s ≤ 0 ∨ s + 19 ≤ length) :
      s ≤ 0 ∨ s + 19 ≤ (length + 1 : Nat) := by omega
  cases more with
  | leading digit => exact leadingBounded digit (by omega)
  | @whole sign k d t c digit fits =>
    have less := digitLess digit
    have kept : k < 10 ^ length := bounded.2
    refine ⟨fits.2, ?_⟩
    simp only [pow_succ]
    omega
  | @wholeFull sign k d c digit full =>
    have less := digitLess digit
    have kept : k < 10 ^ length := bounded.2
    refine ⟨bounded.1, ?_⟩
    by_contra short
    have few : 10 ^ length ≤ 10 ^ 18 := Nat.pow_le_pow_right (by omega) (by simp at short; omega)
    simp only [significandLimit] at full
    omega
  | dropped digit =>
    have kept : _ + 19 ≤ length := bounded.2
    exact ⟨bounded.1, by simp only; omega⟩
  | point scale => exact ⟨bounded.1, later (scaleBounded bounded scale)⟩
  | mark scale mark => exact ⟨bounded.1, later (scaleBounded bounded scale)⟩
  | fraction digit behind fits =>
    refine ⟨fits, ?_⟩
    rcases behind with rfl | rfl
    · have kept := later bounded.2
      simp only
      omega
    · have kept := later bounded.2
      simp only
      omega
  | fractionFull digit behind =>
    rcases behind with rfl | rfl | rfl <;> exact ⟨bounded.1, later bounded.2⟩
  | markSign either => exact ⟨bounded.1, later bounded.2⟩
  | power digit behind =>
    rcases behind with rfl | rfl <;> exact ⟨bounded.1, later bounded.2⟩
  | powerMore digit => exact ⟨bounded.1, later bounded.2⟩
  | powerFull digit free => exact ⟨bounded.1, trivial⟩
  | powerRest digit => exact ⟨bounded.1, trivial⟩

theorem readsBounded {rev : List Char} {n : Numeral} (read : Reads rev n) :
    n.Bounded rev.length := by
  induction read with
  | first opened =>
    unfold open? at opened
    split at opened
    · cases opened
      exact ⟨Nat.zero_le _, trivial⟩
    · obtain ⟨d, digit, rfl⟩ := Option.map_eq_some_iff.mp opened
      exact leadingBounded digit le_rfl
  | more _ step ih => exact boundedExtends ih (stepExtends step)

def Ends (rev : List Char) : NumeralPhase → Prop
  | .sign => ∃ rest, rev = '-' :: rest
  | .point _ => ∃ rest, rev = '.' :: rest
  | .mark _ => ∃ c d rest, rev = c :: d :: rest ∧ isMark c = true ∧ d.isDigit = true
  | .markSign _ _ => ∃ c rest, rev = c :: rest ∧ (c = '+' ∨ c = '-')
  | _ => ∃ d rest, rev = d :: rest ∧ d.isDigit = true

theorem digitIs {c : Char} {d : Nat} (digit : digit? c = some d) : c.isDigit = true := by
  unfold digit? at digit
  split at digit
  · assumption
  · cases digit

theorem endsExtends {rev : List Char} {n m : Numeral} {c : Char} (ends : Ends rev n.phase)
    (more : Extends n c m) : Ends (c :: rev) m.phase := by
  cases more with
  | @leading sign k d c digit =>
    simp only
    split <;> exact ⟨c, rev, rfl, digitIs digit⟩
  | point scale => exact ⟨rev, rfl⟩
  | markSign either => exact ⟨c, rev, rfl, either⟩
  | @mark sign k phase s c scale mark =>
    obtain ⟨d, rest, same, digit⟩ : ∃ d rest, rev = d :: rest ∧ d.isDigit = true := by
      cases phase <;> first | exact ends | cases scale
    exact ⟨c, d, rest, by rw [same], mark, digit⟩
  | whole digit | wholeFull digit | dropped digit | fraction digit | fractionFull digit
  | power digit | powerMore digit | powerFull digit | powerRest digit =>
    exact ⟨c, rev, rfl, digitIs digit⟩

theorem readsEnds {rev : List Char} {n : Numeral} (read : Reads rev n) : Ends rev n.phase := by
  induction read with
  | @first c n opened =>
    unfold open? at opened
    split at opened
    · rename_i minus
      cases opened
      exact ⟨[], by rw [minus]⟩
    · obtain ⟨d, digit, rfl⟩ := Option.map_eq_some_iff.mp opened
      simp only
      split <;> exact ⟨c, [], rfl, digitIs digit⟩
  | more _ step ih => exact endsExtends ih (stepExtends step)

theorem completeOver {n : Numeral} {result : Except Fault Number} {c : Char}
    (complete : n.value? = some result) (digit : c.isDigit = false) (point : c ≠ '.')
    (mark : isMark c = false) : n.step c = .past := by
  have other : digit? c = none := by simp [digit?, digit]
  obtain ⟨sign, k, phase⟩ := n
  cases phase <;> simp only [value?, reduceCtorEq] at complete
  all_goals simp [step, other, afterWhole, afterFraction, point, mark]

def missing (n : Numeral) : List Char := if n.value?.isNone then ['0'] else []

theorem digitNoLetter {c : Char} (digit : c.isDigit = true) : isLetter c = false := by
  simp only [Char.isDigit, ge_iff_le, Bool.and_eq_true, decide_eq_true_eq] at digit
  simp only [isLetter, Char.le_def, Bool.or_eq_false_iff, Bool.and_eq_false_iff,
    decide_eq_false_iff_not, UInt32.not_le]
  have most : c.val < 'A'.val := UInt32.lt_of_le_of_lt digit.2 (by decide)
  have more : c.val < 'a'.val := UInt32.lt_of_le_of_lt digit.2 (by decide)
  exact ⟨.inl more, .inl most⟩

theorem numberRestDigit {c : Char} (rest : List Char) (digit : c.isDigit = true) :
    numberRest (c :: rest) = [] := by
  have other (d : Char) (plain : d.isDigit = false) : c ≠ d := by
    rintro rfl
    simp [plain] at digit
  simp [numberRest, other '-' rfl, other '+' rfl, other '.' rfl, other 'e' rfl, other 'E' rfl]

theorem missingEnds {rev : List Char} {n : Numeral} (ends : Ends rev n.phase)
    (before : List Char) : literalRest (rev ++ before) = n.missing := by
  obtain ⟨sign, k, phase⟩ := n
  have complete (ended : ∃ d rest, rev = d :: rest ∧ d.isDigit = true) :
      literalRest (rev ++ before) = [] := by
    obtain ⟨d, rest, rfl, digit⟩ := ended
    rw [List.cons_append, literalRestPlain (digitNoLetter digit), numberRestDigit _ digit]
  cases phase with
  | sign =>
    obtain ⟨rest, rfl⟩ := ends
    rw [List.cons_append, literalRestPlain rfl]
    rfl
  | point s =>
    obtain ⟨rest, rfl⟩ := ends
    rw [List.cons_append, literalRestPlain rfl]
    rfl
  | markSign s down =>
    obtain ⟨c, rest, rfl, rfl | rfl⟩ := ends
    all_goals
      rw [List.cons_append, literalRestPlain rfl]
      rfl
  | mark s =>
    obtain ⟨c, d, rest, rfl, mark, digit⟩ := ends
    have either : c = 'e' ∨ c = 'E' := by simpa [isMark] using mark
    have plain : (d :: (rest ++ before)).takeWhile isLetter = [] := by
      rw [List.takeWhile_cons_of_neg]
      simp [digitNoLetter digit]
    have word : wordRest? ['e'] = none ∧ wordRest? ['E'] = none := by decide
    rcases either with rfl | rfl
    · simp [literalRest, plain, isLetter, word.1, numberRest, digit, missing, value?]
    · simp [literalRest, plain, isLetter, word.2, numberRest, digit, missing, value?]
  | zero | whole | wholeFull | fraction | fractionFull | power | powerFull => exact complete ends

def finished (n : Numeral) : Numeral :=
  match n.value?, n.step '0' with
  | none, .more m => m
  | _, _ => n

def shown? (n : Numeral) : Option Number := n.finished.value?.bind Except.toOption

theorem finishedComplete {n : Numeral} {result : Except Fault Number}
    (complete : n.value? = some result) : n.finished = n := by
  simp only [finished, complete]

theorem brokenStep {n : Numeral} (broken : n.value? = none) :
    n.step '0' = .more n.finished ∧ ∃ result, n.finished.value? = some result := by
  obtain ⟨sign, k, phase⟩ := n
  cases phase <;> simp only [value?, reduceCtorEq] at broken
  case sign => exact ⟨rfl, _, rfl⟩
  case mark s => exact ⟨rfl, _, rfl⟩
  case markSign s down => exact ⟨rfl, _, rfl⟩
  case point s =>
    have nought : step ⟨sign, k, .point s⟩ '0' = fractionDigit ⟨sign, k, .point s⟩ s 0 := rfl
    rcases gatherCases ⟨sign, k, .point s⟩ 0 with ⟨-, found⟩ | ⟨-, found⟩
    all_goals
      simp only [finished, nought, fractionDigit, found, value?]
      exact ⟨trivial, _, rfl⟩

theorem floatingIs (n : Numeral) (e : Int) : (∃ x, n.floating e = .ok x) ↔
    ((Binary64.ofNat n.significand).bind (scale 4 · e)).isSome := by
  unfold floating
  cases (Binary64.ofNat n.significand).bind (scale 4 · e) <;> simp

theorem roundedSmall {k : Nat} (fits : k ≤ significandLimit) :
    ∃ z, Binary64.ofNat k = some z ∧ z.magnitude ≤ 2 ^ 66 := by
  have cast : (k : ℚ) ≤ 2 ^ 64 := by
    have most : k ≤ 2 ^ 64 := fits.trans (by decide)
    exact_mod_cast most
  obtain ⟨z, found, high, -⟩ :=
    Binary64.ofNatNear (cast.trans_lt (Binary64.twoBelowLimit (by omega)))
  have double : (2 : ℚ) * 2 ^ 64 + 1 ≤ 2 ^ 66 := by norm_num
  exact ⟨z, found, by linarith⟩

theorem floatingNear {n : Numeral} {e : Int} (fits : n.significand ≤ significandLimit)
    (near : e ≤ 281) : ∃ x, n.floating e = .ok x := by
  obtain ⟨z, found, small⟩ := roundedSmall fits
  rw [floatingIs, found, Option.bind_some]
  rcases lt_or_ge e 0 with down | up
  · exact scaleDown small down
  · exact scaleUp small up near

theorem floatingLess {n : Numeral} {x : Number} {e f : Int}
    (fits : n.significand ≤ significandLimit) (less : e ≤ f) (value : n.floating f = .ok x) :
    ∃ y, n.floating e = .ok y := by
  obtain ⟨z, found, small⟩ := roundedSmall fits
  have defined := (floatingIs n f).mp ⟨x, value⟩
  rw [floatingIs]
  rw [found, Option.bind_some] at defined ⊢
  rcases lt_or_ge e 0 with down | up
  · exact scaleDown small down
  · exact scaleLess up less defined

theorem floatingZero {n : Numeral} {e : Int} (zero : n.significand = 0) (least : e ≤ 2147483647) :
    ∃ x, n.floating e = .ok x := by
  have far : n.floating 2147483647 = .ok (.floating ⟨n.negative, 0, Binary64.leastExponent⟩) := by
    rw [floating, zero]
    rfl
  exact floatingLess (by rw [zero]; exact Nat.zero_le _) least far

theorem finalLeast (s : Int) (down : Bool) (v : Nat) : finalExponent s down v ≤ 2147483647 := by
  simp only [finalExponent]
  omega

theorem finalLess {s : Int} {v w : Nat} (less : v ≤ w) :
    finalExponent s false v ≤ finalExponent s false w := by
  simp only [finalExponent]
  split
  · contradiction
  · omega

theorem finalNear {s : Int} {down : Bool} {v : Nat} (near : s ≤ 281)
    (falls : down = true ∨ v = 0) : finalExponent s down v ≤ 281 := by
  simp only [finalExponent]
  split
  · omega
  · rename_i up
    have zero := falls.resolve_left up
    omega

theorem valueFinite {n : Numeral} {length : Nat} {result : Except Fault Number}
    (bounded : n.Bounded length) (short : length ≤ 300)
    (powers : ∀ s v, n.phase = .power s false v → ∃ x, n.value? = some (.ok x))
    (complete : n.value? = some result) : ∃ x, result = .ok x := by
  obtain ⟨sign, k, phase⟩ := n
  obtain ⟨fits, scale⟩ := bounded
  cases phase <;> simp only [value?, Option.some.injEq, reduceCtorEq] at complete
  case power s down v =>
    cases down with
    | true =>
      subst complete
      refine floatingNear fits (finalNear ?_ (.inl rfl))
      simp only at scale
      omega
    | false =>
      obtain ⟨x, value⟩ := powers s v rfl
      simp only [value?, Option.some.injEq] at value
      exact ⟨x, complete.symm.trans value⟩
  case zero | whole | powerFull => exact ⟨_, complete.symm⟩
  all_goals
    subst complete
    refine floatingNear fits ?_
    simp only at scale
    omega

theorem shownFinite {n : Numeral} {length : Nat} (bounded : n.Bounded length)
    (short : length ≤ 300)
    (powers : ∀ s v, n.phase = .power s false v → ∃ x, n.value? = some (.ok x)) :
    ∃ x, n.shown? = some x := by
  unfold shown?
  cases complete : n.value? with
  | some result =>
    obtain ⟨x, rfl⟩ := valueFinite bounded short powers complete
    exact ⟨x, by rw [finishedComplete complete, complete]; rfl⟩
  | none =>
    obtain ⟨step, result, value⟩ := brokenStep complete
    have fits := (boundedExtends bounded (stepExtends step)).1
    suffices ok : ∃ x, result = .ok x by
      obtain ⟨x, rfl⟩ := ok
      exact ⟨x, by rw [value]; rfl⟩
    have scale := bounded.2
    obtain ⟨sign, k, phase⟩ := n
    cases phase <;> simp only [value?, reduceCtorEq] at complete scale
    case sign =>
      cases value
      exact ⟨_, rfl⟩
    case mark s =>
      cases value
      exact floatingNear fits (finalNear (by omega) (.inr rfl))
    case markSign s down =>
      cases value
      exact floatingNear fits (finalNear (by omega) (.inr rfl))
    case point s =>
      generalize finished ⟨sign, k, .point s⟩ = m at *
      rcases gatherCases ⟨sign, k, .point s⟩ 0 with ⟨-, found⟩ | ⟨-, found⟩
      all_goals
        have nought : fractionDigit ⟨sign, k, .point s⟩ s 0 = .more m := step
        simp only [fractionDigit, found, Step.more.injEq] at nought
        subst nought
        cases value
        exact floatingNear fits (by omega)

theorem powerLess {sign : Bool} {k v w : Nat} {s : Int} {x : Number}
    (fits : k ≤ significandLimit) (less : v ≤ w)
    (value : value? ⟨sign, k, .power s false w⟩ = some (.ok x)) :
    ∃ y, value? ⟨sign, k, .power s false v⟩ = some (.ok y) := by
  simp only [value?, Option.some.injEq] at value ⊢
  exact floatingLess (n := ⟨sign, k, .power s false w⟩) fits (finalLess less) value

theorem powerZero {sign down : Bool} {v : Nat} {s : Int} :
    ∃ y, value? ⟨sign, 0, .power s down v⟩ = some (.ok y) := by
  simp only [value?, Option.some.injEq]
  exact floatingZero rfl (finalLeast s down v)

end Numeral
end ChaincodeConsole.Json
