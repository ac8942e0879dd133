import ChaincodeConsole.Proofs.Text.Decoding
import ChaincodeConsole.Text.Percent
import Mathlib.Data.List.Flatten
import Mathlib.Tactic.Tauto

/-! Percent-encoded text and what it decodes to. Encoding hides nothing and adds nothing, so a text
comes back from it exactly if it has no escape of its own, and a value in a form always does. -/
namespace ChaincodeConsole.Text

def Escaped (cs : List Char) : Prop := ∃ before a b behind, cs = before ++ '%' :: a :: b :: behind ∧
  (hexValue? a).isSome = true ∧ (hexValue? b).isSome = true

def Free (cs : List Char) : Prop :=
  ∀ a b rest, cs = a :: b :: rest → hexValue? a = none ∨ hexValue? b = none

theorem freeUnfit {a b : Char} {r : List Char}
    (unfit : ∀ x y, hexValue? a = some x → hexValue? b = some y → False) : Free (a :: b :: r) := by
  intro c d rest same
  cases same
  cases first : hexValue? a with
  | none => exact .inl rfl
  | some x =>
    cases second : hexValue? b with
    | none => exact .inr rfl
    | some y => exact (unfit x y first second).elim

theorem hexValueUpper : ∀ n < 16, hexValue? (upperHexDigit n) = some n := by decide

theorem decodedByte (b : UInt8) (r : List Char) :
    percentDecoded (percentByte b ++ r) = b :: percentDecoded r := by
  have small : b.toNat < 256 := b.toNat_lt
  have whole : UInt8.ofNat (b.toNat / 16 * 16 + b.toNat % 16) = b := byteIs (by omega)
  simp only [percentByte, List.cons_append, List.nil_append, percentDecoded,
    hexValueUpper _ (show b.toNat / 16 < 16 by omega),
    hexValueUpper _ (show b.toNat % 16 < 16 by omega), whole]

theorem decodedBytes (bytes : List UInt8) (r : List Char) :
    percentDecoded (bytes.flatMap percentByte ++ r) = bytes ++ percentDecoded r := by
  induction bytes with
  | nil => rfl
  | cons b bytes ih =>
    rw [List.flatMap_cons, List.append_assoc, decodedByte, ih, List.cons_append]

theorem decodedChar (c : Char) (r : List Char) :
    percentDecoded (percentChar c ++ r) = String.utf8EncodeChar c ++ percentDecoded r :=
  decodedBytes _ r

theorem decodedPlain {c : Char} (plain : c ≠ '%') (r : List Char) :
    percentDecoded (c :: r) = String.utf8EncodeChar c ++ percentDecoded r := by
  rw [percentDecoded]
  intro a b r same
  exact absurd same plain

theorem decodedPercent {r : List Char} (free : Free r) :
    percentDecoded ('%' :: r) = 37 :: percentDecoded r := by
  match r with
  | [] => rfl
  | [a] => rfl
  | a :: b :: rest =>
    rw [percentDecoded]
    rcases free a b rest rfl with no | no <;> rw [no]
    cases hexValue? a <;> rfl

theorem encodedNonempty (c : Char) : 0 < (String.utf8EncodeChar c).length := by
  rcases encodedCases c with ⟨-, bytes⟩ | ⟨-, -, bytes⟩ | ⟨-, -, bytes⟩ | ⟨-, -, bytes⟩ <;>
    simp [bytes]

theorem percentCharHead (c : Char) : ∃ rest, percentChar c = '%' :: rest := by
  have filled := encodedNonempty c
  unfold percentChar
  cases bytes : String.utf8EncodeChar c with
  | nil => simp [bytes] at filled
  | cons b bytes => exact ⟨_, rfl⟩

@[simp] theorem percentCharsNil (keep : Char → Bool) : percentChars keep [] = [] := rfl

theorem percentCharsCons (keep : Char → Bool) (c : Char) (cs : List Char) :
    percentChars keep (c :: cs) = (if keep c then [c] else percentChar c) ++ percentChars keep cs :=
  rfl

theorem percentCharsKept {keep : Char → Bool} {cs : List Char} (kept : ∀ c ∈ cs, keep c = true) :
    percentChars keep cs = cs := by
  induction cs with
  | nil => rfl
  | cons c cs ih =>
    obtain ⟨first, rest⟩ := List.forall_mem_cons.mp kept
    rw [percentCharsCons, if_pos first, ih rest, List.singleton_append]

theorem encodedFree (keep : Char → Bool) {cs : List Char} (free : Free cs) :
    Free (percentChars keep cs) := by
  have mark : hexValue? '%' = none := by decide
  intro a b rest same
  cases cs with
  | nil => cases same
  | cons c cs =>
    rw [percentCharsCons] at same
    split at same
    · obtain ⟨rfl, later⟩ := List.cons.inj same
      cases cs with
      | nil => cases later
      | cons d cs =>
        rw [percentCharsCons] at later
        split at later
        · obtain ⟨rfl, -⟩ := List.cons.inj later
          exact free c d cs rfl
        · obtain ⟨tail, written⟩ := percentCharHead d
          rw [written] at later
          exact .inr ((List.cons.inj later).1 ▸ mark)
    · obtain ⟨tail, written⟩ := percentCharHead c
      rw [written] at same
      exact .inl ((List.cons.inj same).1 ▸ mark)

section
variable {keep : Char → Bool} (sound : ∀ c, keep c = false → c ≠ '%' ∧ hexValue? c = none)
include sound

theorem keepsPercent : keep '%' = true := by
  cases kept : keep '%' with
  | true => rfl
  | false => exact absurd rfl (sound '%' kept).1

theorem keepsHex {c : Char} {n : Nat} (hex : hexValue? c = some n) : keep c = true := by
  cases kept : keep c with
  | true => rfl
  | false => cases hex.symm.trans (sound c kept).2

theorem decodedEncoded (cs : List Char) :
    percentDecoded (percentChars keep cs) = percentDecoded cs := by
  have percent (r : List Char) (free : Free r)
      (ih : percentDecoded (percentChars keep r) = percentDecoded r) :
      percentDecoded (percentChars keep ('%' :: r)) = percentDecoded ('%' :: r) := by
    rw [percentCharsCons, if_pos (keepsPercent sound), List.singleton_append,
      decodedPercent (encodedFree keep free), decodedPercent free, ih]
  induction cs using percentDecoded.induct with
  | case1 a b r x y second first ih =>
    rw [percentCharsCons, percentCharsCons, percentCharsCons, if_pos (keepsPercent sound),
      if_pos (keepsHex sound first), if_pos (keepsHex sound second)]
    simp only [List.singleton_append, percentDecoded, first, second, ih]
  | case2 a b r unfit ih =>
    exact percent _ (freeUnfit unfit) ih
  | case3 c r short ih =>
    by_cases mark : c = '%'
    · subst mark
      exact percent r (fun a b rest same => (short a b rest rfl same).elim) ih
    · rw [percentCharsCons, decodedPlain mark]
      split
      · rw [List.singleton_append, decodedPlain mark, ih]
      · rw [decodedChar, ih]
  | case4 => rfl

end

theorem escapedCons {c : Char} {r : List Char} : Escaped (c :: r) ↔
    (c = '%' ∧ ¬Free r) ∨ Escaped r := by
  constructor
  · rintro ⟨before, a, b, behind, same, first, second⟩
    cases before with
    | nil =>
      obtain ⟨rfl, rfl⟩ := List.cons.inj same
      refine .inl ⟨rfl, fun free => ?_⟩
      rcases free a b behind rfl with no | no
      · rw [no] at first
        cases first
      · rw [no] at second
        cases second
    | cons d before =>
      obtain ⟨rfl, rfl⟩ := List.cons.inj same
      exact .inr ⟨before, a, b, behind, rfl, first, second⟩
  · rintro (⟨rfl, hex⟩ | ⟨before, a, b, behind, rfl, first, second⟩)
    · simp only [Free, not_forall, not_or] at hex
      obtain ⟨a, b, behind, rfl, first, second⟩ := hex
      exact ⟨[], a, b, behind, rfl, Option.isSome_iff_ne_none.mpr first,
        Option.isSome_iff_ne_none.mpr second⟩
    · exact ⟨c :: before, a, b, behind, rfl, first, second⟩

theorem decodedCases (cs : List Char) :
    (¬Escaped cs ∧ percentDecoded cs = utf8Chars cs) ∨
      (Escaped cs ∧ (percentDecoded cs).length < (utf8Chars cs).length) := by
  have step (c : Char) (r : List Char) (unmarked : c = '%' → Free r)
      (decoded : percentDecoded (c :: r) = String.utf8EncodeChar c ++ percentDecoded r)
      (ih : (¬Escaped r ∧ percentDecoded r = utf8Chars r) ∨
        (Escaped r ∧ (percentDecoded r).length < (utf8Chars r).length)) :
      (¬Escaped (c :: r) ∧ percentDecoded (c :: r) = utf8Chars (c :: r)) ∨
        (Escaped (c :: r) ∧
          (percentDecoded (c :: r)).length < (utf8Chars (c :: r)).length) := by
    have bytes : utf8Chars (c :: r) = String.utf8EncodeChar c ++ utf8Chars r := rfl
    rw [escapedCons, decoded, bytes]
    rcases ih with ⟨free, same⟩ | ⟨escaped, fewer⟩
    · exact .inl ⟨by tauto, congrArg _ same⟩
    · exact .inr ⟨.inr escaped, by simpa using fewer⟩
  induction cs using percentDecoded.induct with
  | case1 a b r x y second first ih =>
    refine .inr ⟨⟨[], a, b, r, rfl, by simp [first], by simp [second]⟩, ?_⟩
    have whole : (percentDecoded r).length ≤ (utf8Chars r).length := by
      rcases ih with ⟨-, same⟩ | ⟨-, fewer⟩
      · exact Nat.le_of_eq (congrArg List.length same)
      · exact Nat.le_of_lt fewer
    have bytes : utf8Chars ('%' :: a :: b :: r) =
        [37] ++ (String.utf8EncodeChar a ++ (String.utf8EncodeChar b ++ utf8Chars r)) := rfl
    have filled := encodedNonempty a
    simp only [percentDecoded, first, second, bytes, List.length_append, List.length_cons,
      List.length_nil]
    omega
  | case2 a b r unfit ih =>
    have free := freeUnfit (r := r) unfit
    exact step _ _ (fun _ => free) (decodedPercent free) ih
  | case3 c r short ih =>
    by_cases mark : c = '%'
    · subst mark
      have free : Free r := fun a b rest same => (short a b rest rfl same).elim
      exact step _ _ (fun _ => free) (decodedPercent free) ih
    · exact step _ _ (fun same => absurd same mark) (decodedPlain mark r) ih
  | case4 => exact .inl ⟨by simp [Escaped], rfl⟩

theorem decodedIff {cs : List Char} : percentDecoded cs = utf8Chars cs ↔ ¬Escaped cs := by
  rcases decodedCases cs with ⟨free, same⟩ | ⟨escaped, fewer⟩
  · simp [free, same]
  · simp only [escaped, not_true_eq_false, iff_false]
    intro same
    exact absurd (congrArg List.length same) (Nat.ne_of_lt fewer)

theorem sublistWhole {part cs : List Char} (inside : part.Sublist cs)
    (long : (utf8Chars cs).length ≤ (utf8Chars part).length) : part = cs := by
  induction inside with
  | slnil => rfl
  | @cons part cs c inside =>
    have shorter := (inside.flatMap String.utf8EncodeChar).length_le
    have filled := encodedNonempty c
    rw [utf8Chars, List.flatMap_cons, List.length_append, ← utf8Chars] at long
    change (utf8Chars part).length ≤ (utf8Chars cs).length at shorter
    omega
  | cons_cons c inside ih =>
    refine congrArg _ (ih ?_)
    simpa [utf8Chars] using long

theorem decodedWhole {keep : Char → Bool}
    (sound : ∀ c, keep c = false → c ≠ '%' ∧ hexValue? c = none) {part cs : List Char}
    (inside : part.Sublist cs) (decoded : percentDecoded (percentChars keep part) = utf8Chars cs) :
    part = cs ∧ ¬Escaped cs := by
  rw [decodedEncoded sound] at decoded
  have whole : part = cs := by
    refine sublistWhole inside ?_
    rw [← decoded]
    rcases decodedCases part with ⟨-, same⟩ | ⟨-, fewer⟩
    · exact Nat.le_of_eq (congrArg List.length same)
    · exact Nat.le_of_lt fewer
  subst whole
  exact ⟨rfl, decodedIff.mp decoded⟩

theorem utf8CharsInjective {a b : List Char} (same : utf8Chars a = utf8Chars b) : a = b :=
  String.ofList_injective (Option.some.inj ((strictEncoded a).symm.trans
    (same ▸ strictEncoded b)))

def plusSpaced (c : Char) : Char := if c = '+' then ' ' else c

theorem plusSpacedPercent (c : Char) : (percentChar c).map plusSpaced = percentChar c := by
  have digit : ∀ n < 16, plusSpaced (upperHexDigit n) = upperHexDigit n := by decide
  have byte (b : UInt8) : (percentByte b).map plusSpaced = percentByte b := by
    have small : b.toNat < 256 := b.toNat_lt
    simp only [percentByte, List.map_cons, List.map_nil,
      digit _ (show b.toNat / 16 < 16 by omega), digit _ (show b.toNat % 16 < 16 by omega)]
    rfl
  simp only [percentChar, List.map_flatMap, byte]

theorem formDecoded (cs : List Char) :
    percentDecoded ((formChars cs).map plusSpaced) = utf8Chars cs := by
  induction cs with
  | nil => rfl
  | cons c cs ih =>
    have both : formChars (c :: cs) = (if c = ' ' then ['+']
      else if c.isAlphanum ∨ c ∈ ['*', '-', '.', '_'] then [c] else percentChar c) ++
        formChars cs := rfl
    have bytes : utf8Chars (c :: cs) = String.utf8EncodeChar c ++ utf8Chars cs := rfl
    rw [both, bytes, List.map_append, ← ih]
    split
    · rename_i blank
      subst blank
      exact decodedPlain (by decide) _
    · split
      · rename_i plain
        have apart : c ≠ '+' ∧ c ≠ '%' := by
          constructor <;> rintro rfl <;> exact absurd plain (by decide)
        rw [List.map_singleton, plusSpaced, if_neg apart.1, List.singleton_append,
          decodedPlain apart.2]
      · rw [plusSpacedPercent, decodedChar]

theorem formInjective {a b : List Char} (same : formChars a = formChars b) : a = b :=
  utf8CharsInjective ((formDecoded a).symm.trans (same ▸ formDecoded b))

theorem formOne (name value : String) :
    formPairs [(name, value)] = formChars name.toList ++ '=' :: formChars value.toList := by
  simp [formPairs]

end ChaincodeConsole.Text
