import ChaincodeConsole.Proofs.Toml.Keys
import ChaincodeConsole.Toml.Section

/-! Sections read from values. Where keys are apart, a field's value is put into the draft once, so
what it makes of its part of the draft is what the section ends with there; and a section is read if
and only if each of its fields has a value that it takes. -/
namespace ChaincodeConsole.Toml

def Value.given? (fields : List String) : Value → Option (List (String × Value))
  | .table entries => some entries
  | .array items => some (fields.zip items)
  | .datetime => some []
  | _ => none

theorem lookupNone {key : String} {entries : List (String × Value)}
    (absent : key ∉ entries.map Prod.fst) : entries.lookup key = none :=
  List.lookup_eq_none_iff.mpr fun _ inside =>
    bne_iff_ne.mpr fun same => absent (same ▸ List.mem_map_of_mem inside)

theorem lookupInside {key : String} {v : Value} {entries : List (String × Value)}
    (found : entries.lookup key = some v) : (key, v) ∈ entries := by
  obtain ⟨before, behind, rfl, -⟩ := List.lookup_eq_some_iff.mp found
  simp

theorem givenKeys {fields : List String} (names : fields.Nodup) {v : Value} (distinct : v.Distinct)
    {entries : List (String × Value)} (given : v.given? fields = some entries) :
    (entries.map Prod.fst).Nodup := by
  cases distinct with
  | table keys =>
    cases given
    exact keys
  | array =>
    cases given
    rw [List.zip_eq_zip_take_min, List.map_fst_zip (by simp)]
    exact names.sublist (List.take_sublist _ _)
  | datetime =>
    cases given
    exact List.nodup_nil
  | _ => cases given

namespace Section

variable {δ β : Type} {s : Section δ}

theorem readGiven (s : Section δ) (draft : δ) (v : Value) :
    s.read? draft v = (v.given? s.fields).bind fun entries => entries.foldlM s.putEntry draft := by
  cases v <;> rfl

/-- A part of the draft that is up to one field: what `take` makes of it and the field's value. -/
structure Owns (s : Section δ) (field : String) (part : δ → β) (take : β → Value → Option β) :
    Prop where
  known : field ∈ s.fields
  own : ∀ draft v next, s.put draft field v = some next → take (part draft) v = some (part next)
  other : ∀ name ∈ s.fields, name ≠ field → ∀ draft v next,
    s.put draft name v = some next → part next = part draft

theorem putEntryKeeps {field : String} {part : δ → β} {take : β → Value → Option β}
    (owns : s.Owns field part take) {e : String × Value} (other : e.1 ≠ field) {draft next : δ}
    (put : s.putEntry draft e = some next) : part next = part draft := by
  unfold putEntry at put
  split at put
  · rename_i known
    exact owns.other e.1 (by simpa using known) other draft e.2 next put
  · cases put
    rfl

theorem ownedPart {field : String} {part : δ → β} {take : β → Value → Option β}
    (owns : s.Owns field part take) {entries : List (String × Value)}
    (keys : (entries.map Prod.fst).Nodup) {draft final : δ}
    (done : entries.foldlM s.putEntry draft = some final) :
    (entries.lookup field).elim (some (part draft)) (take (part draft)) = some (part final) := by
  induction entries generalizing draft with
  | nil =>
    cases done
    rfl
  | cons e entries ih =>
    obtain ⟨fresh, rest⟩ := List.nodup_cons.mp keys
    rw [List.foldlM_cons] at done
    obtain ⟨next, put, later⟩ := Option.bind_eq_some_iff.mp done
    have after := ih rest later
    by_cases same : e.1 = field
    · have own : s.put draft field e.2 = some next := by
        rw [← put, putEntry, same, if_pos (by simpa using owns.known)]
      rw [lookupNone (same ▸ fresh)] at after
      rw [List.lookup_cons, same, beq_self_eq_true]
      exact (owns.own draft e.2 next own).trans after
    · rw [putEntryKeeps owns same put] at after
      rw [List.lookup_cons, beq_false_of_ne (Ne.symm same)]
      exact after

def Takes (s : Section δ) (admits : String → Value → Prop) : Prop :=
  ∀ name ∈ s.fields, ∀ draft v, (s.put draft name v).isSome = true ↔ admits name v

theorem foldTaken {admits : String → Value → Prop} (takes : s.Takes admits)
    (entries : List (String × Value)) (draft : δ) :
    (entries.foldlM s.putEntry draft).isSome = true ↔
      ∀ e ∈ entries, e.1 ∈ s.fields → admits e.1 e.2 := by
  induction entries generalizing draft with
  | nil => simp
  | cons e entries ih =>
    rw [List.foldlM_cons, List.forall_mem_cons]
    by_cases known : e.1 ∈ s.fields
    · have put : s.putEntry draft e = s.put draft e.1 e.2 := if_pos (by simpa using known)
      rw [put, ← takes e.1 known draft e.2]
      cases s.put draft e.1 e.2 with
      | none => simp [known]
      | some next => simpa [known] using ih next
    · have put : s.putEntry draft e = some draft := if_neg (by simpa using known)
      rw [put]
      simpa [known] using ih draft

theorem readTaken {admits : String → Value → Prop} (takes : s.Takes admits) (draft : δ)
    (v : Value) : (s.read? draft v).isSome = true ↔
      ∃ entries, v.given? s.fields = some entries ∧
        ∀ e ∈ entries, e.1 ∈ s.fields → admits e.1 e.2 := by
  rw [readGiven]
  cases v.given? s.fields with
  | none => simp
  | some entries => simpa using foldTaken takes entries draft

end Section
end ChaincodeConsole.Toml
