import ChaincodeConsole.Chat.ToolCall
import ChaincodeConsole.Proofs.Json.Previews
import ChaincodeConsole.Proofs.Text.Trimming

/-! Arguments that come in fragments. As long as what has come is a placeholder it is dropped for
the next fragment; of a document this loses white space before it, and white space around an
object without members. -/
namespace ChaincodeConsole.ToolCall

open Json Reader

def gather (held : String) (fragments : List String) : String :=
  fragments.foldl (fun held f => if isPlaceholder held then f else held ++ f) held

theorem placeholderCases {a : String} (placeholder : isPlaceholder a = true) :
    Text.blank a = true ∨ ∃ lead trail, a.toList = lead ++ '{' :: '}' :: trail ∧
      lead.all Text.isBlank = true ∧ trail.all Text.isBlank = true := by
  simp only [isPlaceholder, Bool.or_eq_true, List.isEmpty_iff, beq_iff_eq] at placeholder
  rcases placeholder with nothing | braces
  · exact .inl (Text.trimNil.mp nothing)
  · obtain ⟨lead, trail, split, before, behind⟩ := Text.trimSplits a.toList
    rw [braces, List.append_assoc] at split
    exact .inr ⟨lead, trail, split, before, behind⟩

theorem placeholderBlank {a : String} (blank : Text.blank a = true) : isPlaceholder a = true := by
  simp only [isPlaceholder, Text.trimNil.mpr blank]
  rfl

theorem placeholderTrim {a : String} (placeholder : isPlaceholder a = true)
    (filled : Text.blank a = false) : Text.trim a = "\x7b\x7d" := by
  simp only [isPlaceholder, Bool.or_eq_true, List.isEmpty_iff, beq_iff_eq] at placeholder
  rcases placeholder with nothing | braces
  · cases (Text.trimNil.mp nothing).symm.trans filled
  · rw [Text.trim, braces]

theorem placeholderLead {a b : String} (blank : Text.blank a = true) :
    isPlaceholder (a ++ b) = isPlaceholder b := by
  simp only [isPlaceholder, String.toList_append, Text.trimLead blank]

theorem placeholderBraces {a : String} {lead trail : List Char}
    (split : a.toList = lead ++ '{' :: '}' :: trail) (before : lead.all Text.isBlank = true) :
    isPlaceholder a = true ↔ trail.all Text.isBlank = true := by
  have start : Text.trimStartChars a.toList = '{' :: '}' :: trail := by
    rw [split, Text.trimStartLead before]
    rfl
  constructor
  · intro placeholder
    rcases placeholderCases placeholder with blank | ⟨other, rest, again, blank, behind⟩
    · rw [Text.blank, split, List.all_append, List.all_cons] at blank
      simp [Text.isBlank] at blank
    · rw [again, Text.trimStartLead blank] at start
      have same : rest = trail := by
        have cut : '{' :: '}' :: rest = '{' :: '}' :: trail := start
        simpa using cut
      exact same ▸ behind
  · intro behind
    have whole : Text.trimChars a.toList = ['{', '}'] := by
      rw [Text.trimChars, start]
      exact Text.trimEndTrail behind ['{', '}']
    simp only [isPlaceholder, whole]
    rfl

theorem placeholderRest {a b : String} (first : isPlaceholder a = true)
    (whole : isPlaceholder (a ++ b) = true) : isPlaceholder b = true := by
  rcases placeholderCases first with blank | ⟨lead, trail, split, before, -⟩
  · rwa [placeholderLead blank] at whole
  · have longer : (a ++ b).toList = lead ++ '{' :: '}' :: (trail ++ b.toList) := by
      rw [String.toList_append, split]
      simp
    rw [placeholderBraces longer before, List.all_append, Bool.and_eq_true] at whole
    exact placeholderBlank whole.2

theorem gatherCons (held f : String) (rest : List String) : gather held (f :: rest) =
    gather (if isPlaceholder held then f else held ++ f) rest := rfl

theorem gatherOn {fragments : List String} {held : String}
    (placeholder : isPlaceholder (held ++ String.join fragments) = true) :
    isPlaceholder (gather held fragments) = true := by
  -- What is held and what is to come stay a placeholder together, also when the first is dropped.
  induction fragments generalizing held with
  | nil => simpa [gather] using placeholder
  | cons f rest ih =>
    rw [String.join_cons] at placeholder
    rw [gatherCons]
    split
    · rename_i first
      exact ih (placeholderRest first placeholder)
    · rw [← String.append_assoc] at placeholder
      exact ih placeholder

theorem gatherPlaceholder {held : String} {fragments : List String}
    (first : isPlaceholder held = true)
    (placeholder : isPlaceholder (String.join fragments) = true) :
    isPlaceholder (gather held fragments) = true := by
  cases fragments with
  | nil => exact first
  | cons f rest =>
    rw [String.join_cons] at placeholder
    rw [gatherCons, if_pos first]
    exact gatherOn placeholder

theorem gatherWhole {fragments : List String} {held : String}
    (real : ∀ n, isPlaceholder (held ++ String.join (fragments.take n)) = false) :
    gather held fragments = held ++ String.join fragments := by
  induction fragments generalizing held with
  | nil => simp [gather]
  | cons f rest ih =>
    have first : isPlaceholder held = false := by simpa using real 0
    rw [gatherCons, first, String.join_cons, ← String.append_assoc]
    refine ih fun n => ?_
    have next := real (n + 1)
    rwa [List.take_succ_cons, String.join_cons, ← String.append_assoc] at next

theorem placeholderDocument {a b : String} {v : Json} (accepted : ofText? (a ++ b) = some v)
    (first : isPlaceholder a = true) (filled : Text.blank a = false) :
    isPlaceholder (a ++ b) = true ∧ v = .empty := by
  rcases placeholderCases first with blank | ⟨lead, trail, split, before, -⟩
  · cases blank.symm.trans filled
  · have longer : (a ++ b).toList = lead ++ '{' :: '}' :: (trail ++ b.toList) := by
      rw [String.toList_append, split]
      simp
    have yields := textAccepted.mp accepted
    rw [longer] at yields
    have braces : start.run ['{', '}'] = .ok ⟨.done .empty, []⟩ := rfl
    obtain ⟨behind, same⟩ := doneYields ((yieldsAfter braces _ v).mp (leadingYields before yields))
    exact ⟨(placeholderBraces longer before).mpr behind, same⟩

theorem documentEmpty {d : String} {v : Json} (accepted : ofText? d = some v)
    (placeholder : isPlaceholder d = true) : v = .empty := by
  have whole : ofText? (d ++ "") = some v := by rwa [String.append_empty]
  exact (placeholderDocument whole placeholder (notBlank (textAccepted.mp accepted))).2

theorem gatherDocument {fragments : List String} {held : String} {v : Json}
    (first : isPlaceholder held = true) (accepted : ofText? (String.join fragments) = some v)
    (real : isPlaceholder (String.join fragments) = false) :
    gather held fragments = String.join (fragments.dropWhile Text.blank) ∧
      ofText? (gather held fragments) = some v ∧ isPlaceholder (gather held fragments) = false := by
  induction fragments generalizing held with
  | nil => cases real
  | cons f rest ih =>
    rw [String.join_cons] at accepted real
    cases blank : Text.blank f with
    | true =>
      rw [placeholderLead blank] at real
      have later : ofText? (String.join rest) = some v := by
        rw [textAccepted, String.toList_append] at accepted
        exact textAccepted.mpr (leadingYields blank accepted)
      rw [gatherCons, if_pos first, List.dropWhile_cons_of_pos blank]
      exact ih (placeholderBlank blank) later real
    | false =>
      have whole : gather f rest = f ++ String.join rest := by
        refine gatherWhole fun n => ?_
        -- What has come by then begins the document, and is not blank.
        have split : f ++ String.join rest =
            f ++ String.join (rest.take n) ++ String.join (rest.drop n) := by
          rw [String.append_assoc, ← String.join_append, List.take_append_drop]
        by_contra placeholder
        rw [Bool.not_eq_false] at placeholder
        rw [split] at accepted real
        have filled : Text.blank (f ++ String.join (rest.take n)) = false := by
          rw [Text.blank, String.toList_append, List.all_append]
          exact Bool.and_eq_false_imp.mpr fun all => absurd all (by simpa [Text.blank] using blank)
        cases (placeholderDocument accepted placeholder filled).1.symm.trans real
      have same : gather held (f :: rest) = f ++ String.join rest := by
        rw [gatherCons, if_pos first]
        exact whole
      rw [same, List.dropWhile_cons_of_neg (by simp [blank]), String.join_cons]
      exact ⟨rfl, accepted, real⟩

end ChaincodeConsole.ToolCall
