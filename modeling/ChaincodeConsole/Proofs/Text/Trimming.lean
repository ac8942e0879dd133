import ChaincodeConsole.Text.Blank
import Mathlib.Data.List.TakeWhile

/-! Trimming takes white space from both ends and nothing else. A text that trimming leaves
nothing of is blank. -/
namespace ChaincodeConsole.Text

theorem trimStartSplits (cs : List Char) :
    ∃ lead, cs = lead ++ trimStartChars cs ∧ lead.all isBlank :=
  ⟨cs.takeWhile isBlank, List.takeWhile_append_dropWhile.symm, List.all_takeWhile⟩

theorem trimEndSplits (cs : List Char) :
    ∃ trail, cs = trimEndChars cs ++ trail ∧ trail.all isBlank := by
  refine ⟨(cs.reverse.takeWhile isBlank).reverse, ?_, ?_⟩
  · rw [trimEndChars, ← List.reverse_append, List.takeWhile_append_dropWhile, List.reverse_reverse]
  · rw [List.all_reverse]
    exact List.all_takeWhile

theorem trimSplits (cs : List Char) :
    ∃ lead trail, cs = lead ++ trimChars cs ++ trail ∧ lead.all isBlank ∧ trail.all isBlank := by
  obtain ⟨lead, front, blankLead⟩ := trimStartSplits cs
  obtain ⟨trail, back, blankTrail⟩ := trimEndSplits (trimStartChars cs)
  refine ⟨lead, trail, ?_, blankLead, blankTrail⟩
  rw [trimChars, List.append_assoc, ← back]
  exact front

theorem trimEndNil {cs : List Char} : trimEndChars cs = [] ↔ cs.all isBlank := by
  simp [trimEndChars, List.dropWhile_eq_nil_iff]

theorem trimNil {cs : List Char} : trimChars cs = [] ↔ cs.all isBlank := by
  obtain ⟨lead, front, blankLead⟩ := trimStartSplits cs
  rw [trimChars, trimEndNil]
  constructor
  · intro rest
    rw [front, List.all_append, blankLead, rest]
    rfl
  · intro all
    rw [front, List.all_append] at all
    exact (Bool.and_eq_true_iff.mp all).2

theorem trimStartLead {lead : List Char} (blank : lead.all isBlank = true) (cs : List Char) :
    trimStartChars (lead ++ cs) = trimStartChars cs :=
  List.dropWhile_append_of_pos (List.all_eq_true.mp blank)

theorem trimLead {lead : List Char} (blank : lead.all isBlank = true) (cs : List Char) :
    trimChars (lead ++ cs) = trimChars cs := by
  rw [trimChars, trimStartLead blank]
  rfl

theorem trimEndTrail {trail : List Char} (blank : trail.all isBlank = true) (cs : List Char) :
    trimEndChars (cs ++ trail) = trimEndChars cs := by
  rw [trimEndChars, List.reverse_append, List.dropWhile_append_of_pos]
  · rfl
  · intro c inside
    exact List.all_eq_true.mp blank c (List.mem_reverse.mp inside)

theorem trimHead (cs : List Char) : ∀ c ∈ (trimChars cs).head?, isBlank c = false := by
  intro c first
  obtain ⟨trail, split, -⟩ := trimEndSplits (trimStartChars cs)
  have head := List.head?_dropWhile_not isBlank cs
  have kept : (trimStartChars cs).head? = some c := by
    rw [split, ← trimChars, List.head?_append, Option.mem_def.mp first, Option.some_or]
  rw [← trimStartChars, kept] at head
  simpa using head

theorem trimLast (cs : List Char) : ∀ c ∈ (trimChars cs).getLast?, isBlank c = false := by
  intro c last
  have head := List.head?_dropWhile_not isBlank (trimStartChars cs).reverse
  rw [trimChars, trimEndChars, List.getLast?_reverse] at last
  simpa [Option.mem_def.mp last] using head

theorem trimEnds {cs : List Char} (first : ∀ c ∈ cs.head?, isBlank c = false)
    (last : ∀ c ∈ cs.getLast?, isBlank c = false) : trimChars cs = cs := by
  have kept {cs : List Char} (filled : ∀ c ∈ cs.head?, isBlank c = false) :
      cs.dropWhile isBlank = cs := by
    cases cs with
    | nil => rfl
    | cons c cs => exact List.dropWhile_cons_of_neg (by simp [filled c rfl])
  rw [← List.head?_reverse] at last
  rw [trimChars, trimStartChars, kept first, trimEndChars, kept last, List.reverse_reverse]

theorem trimKept {first last : Char} (filled : isBlank first = false)
    (ends : isBlank last = false) (middle : List Char) :
    trimChars (first :: (middle ++ [last])) = first :: (middle ++ [last]) := by
  refine trimEnds ?_ ?_
  · rintro c ⟨⟩
    exact filled
  · rw [← List.cons_append, List.getLast?_concat]
    rintro c ⟨⟩
    exact ends

end ChaincodeConsole.Text
