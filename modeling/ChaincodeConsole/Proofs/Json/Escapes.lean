import ChaincodeConsole.Proofs.Json.Scans

/-! Strings that break off. What has been read of an escape stands at the end of the text;
closing the string drops it, and leaves the string as it was before the escape. Only a leading
surrogate that still waits for its partner cannot be dropped so. -/
namespace ChaincodeConsole.Json

def hexNumber (digits : List Char) : Option Nat :=
  digits.foldl (fun v c => do return (← v) * 16 + (← Text.hexValue? c)) (some 0)

def Escape.waiting? : Escape → Option Nat
  | .pairSlash h | .pairLetter h => some h
  | .unit high _ _ => high
  | _ => Option.none

def Escape.between : Option Nat → Escape
  | Option.none => .none
  | some h => .pairSlash h

inductive Cut : Escape → List Char → Prop where
  | none : Cut .none []
  | pairSlash {h : Nat} : Cut (.pairSlash h) []
  | slash : Cut .open ['\\']
  | pairLetter {h : Nat} : Cut (.pairLetter h) ['\\']
  | unit {high : Option Nat} {digits : List Char} {v : Nat} (room : digits.length < 4)
      (value : hexNumber digits = some v) :
      Cut (.unit high digits.length (some v)) ('\\' :: 'u' :: digits)

theorem hexNumberSnoc (digits : List Char) (c : Char) : hexNumber (digits ++ [c]) =
    (do return (← hexNumber digits) * 16 + (← Text.hexValue? c)) := by
  simp only [hexNumber, List.foldl_append, List.foldl_cons, List.foldl_nil]

theorem hexNumberNext {digits : List Char} {c : Char} {v d : Nat}
    (value : hexNumber digits = some v) (digit : Text.hexValue? c = some d) :
    hexNumber (digits ++ [c]) = some (v * 16 + d) := by
  rw [hexNumberSnoc, value, digit]
  rfl

theorem hexNumberSplits {digits : List Char} {c : Char} {w : Nat}
    (value : hexNumber (digits ++ [c]) = some w) :
    ∃ v d, hexNumber digits = some v ∧ Text.hexValue? c = some d ∧ w = v * 16 + d := by
  rw [hexNumberSnoc] at value
  cases before : hexNumber digits with
  | none => simp [before] at value
  | some v =>
    cases digit : Text.hexValue? c with
    | none => simp [before, digit] at value
    | some d =>
      simp only [before, digit, Option.bind_eq_bind, Option.bind_some, Option.pure_def,
        Option.some.injEq] at value
      exact ⟨v, d, rfl, rfl, value.symm⟩

theorem hexDigitIff (c : Char) : isHexDigit c = true ↔ ∃ d, Text.hexValue? c = some d := by
  unfold Text.hexValue? isHexDigit
  simp only [Bool.or_eq_true, Bool.and_eq_true, decide_eq_true_eq]
  split
  · simp_all
  · split
    · simp_all
    · split <;> simp_all

theorem hexNumberSome (digits : List Char) :
    digits.all isHexDigit = true ↔ ∃ v, hexNumber digits = some v := by
  induction digits using List.reverseRecOn with
  | nil => simp [hexNumber]
  | append_singleton digits c ih =>
    rw [List.all_append, Bool.and_eq_true, ih]
    simp only [List.all_cons, List.all_nil, Bool.and_true, hexDigitIff]
    constructor
    · rintro ⟨⟨v, value⟩, d, digit⟩
      exact ⟨_, hexNumberNext value digit⟩
    · rintro ⟨w, value⟩
      obtain ⟨v, d, before, digit, -⟩ := hexNumberSplits value
      exact ⟨⟨v, before⟩, d, digit⟩

namespace Reader

theorem moveIntoText {r next : Reader} {c : Char} {forKey : Bool} {held : List Char}
    {e : Escape} (move : Move r c next) (text : next.mode = .text forKey held e) :
    (e = .none ∧ c = '"') ∨
      ∃ before f, r = ⟨.text forKey before f, next.stack⟩ ∧ Spells before f c held e := by
  have delivered (v : Json) (s : List Frame) : (deliver v s).mode ≠ .text forKey held e :=
    deliverOther (by simp) (by simp) v s
  induction move with
  | space free =>
    cases text
    cases free
  | openText | openKey =>
    cases text
    exact .inl ⟨rfl, rfl⟩
  | emptyList | emptyObject | closeList | closeObject | wordEnd | wordNone =>
    exact absurd text (delivered _ _)
  | @closeText key held s =>
    cases key with
    | true => cases text
    | false => exact absurd text (delivered _ _)
  | spell spelled =>
    cases text
    exact .inr ⟨_, _, rfl, spelled⟩
  | past _ _ _ ih =>
    rcases ih text with outside | ⟨before, f, same, -⟩
    · exact .inl outside
    · exact absurd (congrArg Reader.mode same) (deliverOther (by simp) (by simp) _ _)
  | _ => cases text

theorem textEnds {cs : List Char} {forKey : Bool} {held : List Char} {e : Escape}
    {s : List Frame} (read : start.run cs = .ok ⟨.text forKey held e, s⟩)
    (sound : Sound ⟨.text forKey held e, s⟩) :
    ∃ front tail, cs = front ++ tail ∧ Cut e tail ∧
      start.run front = .ok ⟨.text forKey held (.between e.waiting?), s⟩ := by
  have nothing {high : Option Nat} : Cut (.unit high 0 (some 0)) ['\\', 'u'] :=
    .unit (List.length_nil.trans_lt (by omega)) rfl
  induction cs using List.reverseRecOn generalizing held e with
  | nil => cases read
  | append_singleton cs c ih =>
    obtain ⟨m, before, move⟩ := runSnoc read
    have earlier := soundBefore before move sound
    rcases moveIntoText move rfl with ⟨rfl, -⟩ | ⟨old, f, rfl, spelled⟩
    · exact ⟨cs ++ [c], [], (List.append_nil _).symm, .none, read⟩
    · cases spelled with
      | plain | letter | scalar | pair =>
        exact ⟨cs ++ [c], [], (List.append_nil _).symm, .none, read⟩
      | lead => exact ⟨cs ++ [c], [], (List.append_nil _).symm, .pairSlash, read⟩
      | slash => exact ⟨cs, ['\\'], rfl, .slash, before⟩
      | pairSlash => exact ⟨cs, ['\\'], rfl, .pairLetter, before⟩
      | lost => exact absurd rfl (sound.digits _ _ _ _)
      | unit =>
        obtain ⟨front, tail, rfl, cut, opened⟩ := ih before earlier
        cases cut
        exact ⟨front, ['\\', 'u'], by simp, nothing, opened⟩
      | pairLetter =>
        obtain ⟨front, tail, rfl, cut, opened⟩ := ih before earlier
        cases cut
        exact ⟨front, ['\\', 'u'], by simp, nothing, opened⟩
      | @digit high _ _ _ _ digit room =>
        obtain ⟨front, tail, rfl, cut, opened⟩ := ih before earlier
        cases cut with
        | @unit _ digits _ _ value =>
          have longer : Cut (.unit high (digits ++ [c]).length _) _ :=
            .unit (by simpa using room) (hexNumberNext value digit)
          rw [List.length_append, List.length_singleton] at longer
          exact ⟨front, '\\' :: 'u' :: (digits ++ [c]), by simp, longer, opened⟩

theorem unitRun {forKey : Bool} {held : List Char} {s : List Frame} {high : Option Nat}
    {digits : List Char} {v : Nat} (room : digits.length < 4) (value : hexNumber digits = some v) :
    (⟨.text forKey held (.unit high 0 (some 0)), s⟩ : Reader).run digits =
      .ok ⟨.text forKey held (.unit high digits.length (some v)), s⟩ := by
  induction digits using List.reverseRecOn generalizing v with
  | nil =>
    cases value
    rfl
  | append_singleton digits c ih =>
    obtain ⟨w, d, before, digit, rfl⟩ := hexNumberSplits value
    rw [List.length_append, List.length_singleton] at room ⊢
    rw [runAppend (ih (by omega) before), runOne]
    simp [step, plainStep, textStep, escapeStep, unitStep, digit, hexSize digit, room, bind,
      Except.bind, pure, Except.pure]

theorem unitOpens {forKey : Bool} {held : List Char} {s : List Frame} (high : Option Nat)
    {digits : List Char} {v : Nat} (room : digits.length < 4) (value : hexNumber digits = some v) :
    (⟨.text forKey held (.between high), s⟩ : Reader).run ('\\' :: 'u' :: digits) =
      .ok ⟨.text forKey held (.unit high digits.length (some v)), s⟩ := by
  cases high with
  | none => exact unitRun room value
  | some h => exact unitRun room value

end Reader

theorem Scan.escapedStep {s : Scan} {c : Char} (free : s.inString = false → s.escaped = false) :
    (s.step c).escaped = ((s.step c).inString && c == '\\' && !s.escaped) := by
  cases inside : s.inString with
  | false =>
    have free := free inside
    unfold Scan.step
    rw [if_neg (by simp [inside])]
    split <;> simp_all
  | true =>
    cases escaped : s.escaped with
    | true => simp [Scan.stepEscaped _ inside escaped]
    | false =>
      by_cases slash : c = '\\'
      · simp [slash, Scan.stepSlash inside escaped, inside]
      · by_cases quote : c = '"'
        · rw [quote, Scan.stepQuote inside escaped]
          unfold Scan.closeString
          split <;> simp [escaped]
        · simp [Scan.stepText inside escaped slash quote, escaped, slash]

theorem slashParity (cs : List Char) : (Scan.ofChars cs).escaped =
    ((Scan.ofChars cs).inString && (cs.reverse.takeWhile (· == '\\')).length % 2 == 1) := by
  induction cs using List.reverseRecOn with
  | nil => rfl
  | append_singleton cs c ih =>
    have free : (Scan.ofChars cs).inString = false → (Scan.ofChars cs).escaped = false := by
      intro outside
      rw [ih, outside, Bool.false_and]
    rw [scanSnoc, Scan.escapedStep free, List.reverse_append, List.reverse_singleton,
      List.singleton_append]
    by_cases slash : c = '\\'
    · subst slash
      rw [List.takeWhile_cons_of_pos (by rfl), List.length_cons]
      generalize (cs.reverse.takeWhile (· == '\\')).length = n at ih
      have other : ((n + 1) % 2 == 1) = !(n % 2 == 1) := by
        rcases Nat.mod_two_eq_zero_or_one n with even | odd
        · simp [even, Nat.succ_mod_two_eq_one_iff.mpr even]
        · simp [odd, Nat.succ_mod_two_eq_zero_iff.mpr odd]
      cases inside : (Scan.ofChars cs).inString with
      | false => simp [Scan.step, inside]
      | true =>
        have stays : ((Scan.ofChars cs).step '\\').inString = true := by
          unfold Scan.step
          rw [if_pos inside]
          split <;> simp [inside]
        rw [ih, other, stays, inside]
        simp
    · rw [List.takeWhile_cons_of_neg (by simpa using slash)]
      simp [slash]

structure EndsInUnit (rev digits before : List Char) : Prop where
  same : rev = digits ++ 'u' :: '\\' :: before
  hex : digits.all isHexDigit = true
  short : digits.length < 4
  even : (before.takeWhile (· == '\\')).length % 2 = 0

theorem dropCutUnitDrops {rev digits before : List Char} (ends : EndsInUnit rev digits before) :
    dropCutUnit rev = before := by
  have hex : ∀ c ∈ digits, isHexDigit c = true := List.all_eq_true.mp ends.hex
  have other : isHexDigit 'u' = false := by decide
  simp only [dropCutUnit, ends.same, List.takeWhile_append_of_pos hex,
    List.dropWhile_append_of_pos hex, List.takeWhile_cons, List.dropWhile_cons, other,
    Bool.false_eq_true, if_false, List.append_nil]
  rw [if_pos ⟨ends.short, ends.even⟩]

theorem dropCutUnitCases (rev : List Char) :
    dropCutUnit rev = rev ∨ ∃ digits before, EndsInUnit rev digits before := by
  simp only [dropCutUnit]
  split
  · rename_i before rest
    split
    · rename_i cut
      refine .inr ⟨rev.takeWhile isHexDigit, before, ?_, List.all_takeWhile, cut.1, cut.2⟩
      rw [← rest, List.takeWhile_append_dropWhile]
    · exact .inl rfl
  · exact .inl rfl

open Reader

theorem slashMove {r next : Reader} (move : Move r '\\' next) (letters : r.Letters)
    (sound : next.Sound) : ∃ forKey held e s, r = ⟨.text forKey held e, s⟩ ∧
      (e = .open ∨ ∃ high, e = .between high) := by
  generalize slash : '\\' = c at move
  have noToken (token : inToken c = true) : False := by
    subst slash
    cases token
  have noHex {d : Nat} (digit : Text.hexValue? c = some d) : False := by
    subst slash
    cases digit
  induction move with
  | closeText => cases slash
  | @spell forKey held next e f s c spelled =>
    refine ⟨forKey, held, e, s, rfl, ?_⟩
    cases spelled with
    | plain _ other => exact absurd slash.symm other
    | slash => exact .inr ⟨none, rfl⟩
    | letter => exact .inl rfl
    | digit digit | scalar digit | lead digit | pair digit => exact (noHex digit).elim
    | lost => exact absurd rfl (sound.digits _ _ _ _)
    | pairSlash => exact .inr ⟨some _, rfl⟩
    | unit | pairLetter => cases slash
  | space _ blank =>
    subst slash
    cases blank
  | openWord _ known => exact (noToken (literalToken known)).elim
  | openNumber _ opened => exact (noToken (openToken opened)).elim
  | word | wordEnd =>
    exact (noToken (letterToken ((letters _ _ rfl).2 _ List.mem_cons_self))).elim
  | wordNone => exact absurd rfl (letters _ _ rfl).1
  | number more => exact (noToken (moreToken more)).elim
  | @past n x c s r _ _ _ ih =>
    obtain ⟨forKey, held, e, t, same, -⟩ := ih (lettersDeliver _ _) sound slash noToken noHex
    exact absurd (congrArg Reader.mode same) (deliverOther (by simp) (by simp) _ _)
  | _ => cases slash

theorem betweenSound {forKey : Bool} {held : List Char} {high : Option Nat} {s : List Frame} :
    Sound ⟨.text forKey held (.between high), s⟩ := by
  cases high <;> exact ⟨nofun, nofun⟩

theorem betweenEven {cs : List Char} {forKey : Bool} {held : List Char} {high : Option Nat}
    {s : List Frame} (read : start.run cs = .ok ⟨.text forKey held (.between high), s⟩) :
    (cs.reverse.takeWhile (· == '\\')).length % 2 = 0 := by
  have mirrors := mirrorsRun read betweenSound
  have parity := slashParity cs
  have free : (Scan.ofChars cs).escaped = false := by
    rw [mirrors.escaped]
    cases high <;> rfl
  have inside : Reader.inText ⟨.text forKey held (.between high), s⟩ = true := rfl
  rw [free, mirrors.inString, inside, Bool.true_and, eq_comm, beq_eq_false_iff_ne] at parity
  omega

theorem betweenKept {cs : List Char} {forKey : Bool} {held : List Char} {high : Option Nat}
    {s : List Frame} (read : start.run cs = .ok ⟨.text forKey held (.between high), s⟩) :
    dropCutUnit cs.reverse = cs.reverse := by
  rcases dropCutUnitCases cs.reverse with same | ⟨digits, before, same, hex, short, even⟩
  · exact same
  · exfalso
    obtain ⟨v, value⟩ := (hexNumberSome digits.reverse).mp (by simpa using hex)
    have split : cs = before.reverse ++ '\\' :: 'u' :: digits.reverse := by
      rw [← List.reverse_reverse cs, same]
      simp
    subst split
    obtain ⟨m, first, rest⟩ := runSplits read
    obtain ⟨next, slash, move, later⟩ := runCons rest
    have opened := (runAppend first ['\\']).trans slash
    have sound := soundEarlier opened later betweenSound
    have earlier := soundEarlier first rest betweenSound
    obtain ⟨key, old, e, t, rfl, between⟩ := slashMove move earlier.letters sound
    -- The backslash stands where an escape may begin, or right behind another backslash. Then
    -- the even number of them before it does not fit, and else the unit would still be open.
    rcases between with rfl | ⟨other, rfl⟩
    · have parity := slashParity before.reverse
      rw [(mirrorsRun first earlier).escaped, (mirrorsRun first earlier).inString,
        List.reverse_reverse, even] at parity
      cases parity
    · rw [unitOpens other (by simpa using short) value] at rest
      cases high <;> cases rest

theorem closesCut {cs : List Char} {forKey : Bool} {held : List Char} {e : Escape}
    {s : List Frame} (read : start.run cs = .ok ⟨.text forKey held e, s⟩)
    (sound : Sound ⟨.text forKey held e, s⟩) :
    ∃ front, closeCutString (Scan.ofChars cs) cs.reverse = '"' :: front.reverse ∧
      start.run front = .ok ⟨.text forKey held (.between e.waiting?), s⟩ := by
  obtain ⟨front, tail, rfl, cut, opened⟩ := textEnds read sound
  have mirrors := mirrorsRun read sound
  have escaped := mirrors.escaped
  refine ⟨front, ?_, opened⟩
  cases cut with
  | slash | pairLetter =>
    simp only [closeCutString, escaped, Reader.escaping]
    simp
  | @unit high digits v room value =>
    have hex := (hexNumberSome digits).mpr ⟨v, value⟩
    have ends : EndsInUnit (front ++ '\\' :: 'u' :: digits).reverse digits.reverse front.reverse :=
      ⟨by simp, by simpa using hex, by simpa using room, betweenEven opened⟩
    simp only [closeCutString, escaped, Reader.escaping, Bool.false_eq_true, if_false,
      dropCutUnitDrops ends]
  | none | pairSlash =>
    rw [List.append_nil] at *
    simp only [closeCutString, escaped, Reader.escaping, Bool.false_eq_true, if_false]
    rw [betweenKept opened]

/-- An escape that breaks off: a backslash alone, or a unit with fewer than four digits. -/
def CutEscape (tail : List Char) : Prop :=
  tail = [] ∨ tail = ['\\'] ∨
    ∃ digits, tail = '\\' :: 'u' :: digits ∧ digits.length < 4 ∧ digits.all isHexDigit = true

/-- The text breaks off in a string behind a leading surrogate that waits for its partner. -/
def CutInPair (cs : List Char) : Prop :=
  ∃ before unit tail forKey held s h,
    cs = before ++ '\\' :: 'u' :: unit ++ tail ∧
      start.run before = .ok ⟨.text forKey held .none, s⟩ ∧
      unit.length = 4 ∧ hexNumber unit = some h ∧ 0xD800 ≤ h ∧ h ≤ 0xDBFF ∧ CutEscape tail

theorem leadRun {forKey : Bool} {held : List Char} {s : List Frame} {unit : List Char} {h : Nat}
    (four : unit.length = 4) (value : hexNumber unit = some h) (low : 0xD800 ≤ h)
    (high : h ≤ 0xDBFF) :
    (⟨.text forKey held .none, s⟩ : Reader).run ('\\' :: 'u' :: unit) =
      .ok ⟨.text forKey held (.pairSlash h), s⟩ := by
  -- The last digit completes the unit, the others leave it open.
  obtain ⟨digits, c, rfl⟩ : ∃ digits c, unit = digits ++ [c] := by
    rcases List.eq_nil_or_concat unit with rfl | ⟨digits, c, rfl⟩
    · cases four
    · exact ⟨digits, c, List.concat_eq_append⟩
  rw [List.length_append, List.length_singleton] at four
  obtain ⟨v, d, before, digit, rfl⟩ := hexNumberSplits value
  have opened : run ⟨.text forKey held .none, s⟩ ('\\' :: 'u' :: digits) =
      .ok ⟨.text forKey held (.unit none digits.length (some v)), s⟩ :=
    unitOpens none (by omega) before
  have single : ¬0xDC00 ≤ v * 16 + d := by omega
  rw [← List.cons_append, ← List.cons_append, runAppend opened, runOne]
  simp [step, plainStep, textStep, escapeStep, unitStep, takeUnit, digit, hexSize digit, four,
    single, low, high, bind, Except.bind, pure, Except.pure]

theorem leadEnds {cs : List Char} {forKey : Bool} {held : List Char} {h : Nat} {s : List Frame}
    (read : start.run cs = .ok ⟨.text forKey held (.pairSlash h), s⟩) :
    ∃ before unit, cs = before ++ '\\' :: 'u' :: unit ∧
      start.run before = .ok ⟨.text forKey held .none, s⟩ ∧
      unit.length = 4 ∧ hexNumber unit = some h ∧ 0xD800 ≤ h ∧ h ≤ 0xDBFF := by
  have sound : Sound ⟨.text forKey held (.pairSlash h), s⟩ := ⟨nofun, nofun⟩
  rcases List.eq_nil_or_concat cs with rfl | ⟨cs, c, rfl⟩
  · cases read
  · rw [List.concat_eq_append] at *
    obtain ⟨m, first, move⟩ := runSnoc read
    have earlier := soundBefore first move sound
    rcases moveIntoText move rfl with ⟨outside, -⟩ | ⟨old, f, rfl, spelled⟩
    · cases outside
    · cases spelled with
      | lead digit full low high =>
        obtain ⟨before, tail, rfl, cut, opened⟩ := textEnds first earlier
        cases cut with
        | @unit _ digits _ room value =>
          refine ⟨before, digits ++ [c], by simp, opened, ?_, hexNumberNext value digit, low, high⟩
          rw [List.length_append, List.length_singleton]
          omega

theorem cutInPair {cs : List Char} {k : Reader} (read : start.run cs = .ok k) (sound : k.Sound) :
    CutInPair cs ↔ ∃ forKey held e s h, k = ⟨.text forKey held e, s⟩ ∧ e.waiting? = some h := by
  constructor
  · rintro ⟨before, unit, tail, forKey, held, s, h, rfl, opened, four, value, low, high, cut⟩
    have lead := (runAppend opened _).trans (leadRun four value low high)
    rw [runAppend lead] at read
    rcases cut with rfl | rfl | ⟨digits, rfl, short, hex⟩
    · cases read
      exact ⟨forKey, held, _, s, h, rfl, rfl⟩
    · cases read
      exact ⟨forKey, held, _, s, h, rfl, rfl⟩
    · obtain ⟨v, spelled⟩ := (hexNumberSome digits).mp hex
      cases (unitOpens (some h) short spelled).symm.trans read
      exact ⟨forKey, held, _, s, h, rfl, rfl⟩
  · rintro ⟨forKey, held, e, s, h, rfl, waits⟩
    obtain ⟨front, tail, rfl, cut, opened⟩ := textEnds read sound
    rw [waits] at opened
    obtain ⟨before, unit, rfl, free, four, value, low, high⟩ := leadEnds opened
    refine ⟨before, unit, tail, forKey, held, s, h, rfl, free, four, value, low, high, ?_⟩
    cases cut with
    | none => cases waits
    | slash => cases waits
    | pairSlash => exact .inl rfl
    | pairLetter => exact .inr (.inl rfl)
    | @unit _ digits v room spelled =>
      exact .inr (.inr ⟨digits, rfl, room, (hexNumberSome digits).mpr ⟨v, spelled⟩⟩)

end ChaincodeConsole.Json
