import ChaincodeConsole.Tool.Display

/-! Views of calls cut to a number of lines. Title and tone are those of the whole view, and so are
the lines that are kept. The line in place of the others counts them while the call runs; once it
has its result the view is cut twice, and the count is one. -/
namespace ChaincodeConsole

namespace View

/-- All lines are shown, or as many as may be with a muted count of those that are left out. -/
structure Counts (full shown : List ViewLine) (most : Nat) : Prop where
  whole : most = 0 ∨ full.length ≤ most → shown = full
  cut : 0 < most → most < full.length → shown = full.take most ++
    [⟨.muted, "… " ++ toString (full.length - most) ++ " more lines"⟩]

variable {v : View} {most : Nat}

theorem truncateWhole (fits : most = 0 ∨ v.lines.length ≤ most) : v.truncate most = v := if_pos fits

theorem truncateCut (positive : 0 < most) (long : most < v.lines.length) :
    v.truncate most =
      { v with lines := v.lines.take most ++ [hiddenLine (v.lines.length - most)] } :=
  if_neg (by omega)

/-- The second cut takes the count of the first one for a line, and hides it. -/
theorem truncateTwice (positive : 0 < most) (long : most < v.lines.length) :
    (v.truncate most).truncate most = { v with lines := v.lines.take most ++ [hiddenLine 1] } := by
  have kept : (v.lines.take most).length = most := List.length_take_of_le (Nat.le_of_lt long)
  have again := truncateCut (v := v.truncate most) positive
    (by simp [truncateCut positive long, kept])
  rw [again, truncateCut positive long]
  simp [kept]

theorem truncateFrame (v : View) (most : Nat) :
    (v.truncate most).title = v.title ∧ (v.truncate most).tone = v.tone := by
  unfold truncate
  split <;> exact ⟨rfl, rfl⟩

theorem hiddenInjective {a b : Nat} (same : hiddenLine a = hiddenLine b) : a = b := by
  have texts := congrArg (·.text.toList) same
  simp only [hiddenLine, String.toList_append, List.append_assoc, List.append_cancel_left_eq,
    List.append_cancel_right_eq, Nat.toString_eq_ofList_toDigits, String.toList_ofList] at texts
  have numbers := congrArg (Nat.ofDigitChars 10 · 0) texts
  simpa [Nat.ofDigitChars_toDigits] using numbers

end View

namespace Display

theorem callTruncates (c : ToolCall) (most : Nat) : call c most =
    if c.status.isTerminal then ((call c 0).truncate most).truncate most
    else (call c 0).truncate most := by
  have whole (v : View) : v.truncate 0 = v := View.truncateWhole (.inl rfl)
  cases status : c.status with
  | started | streaming | executing => simp [call, status, whole, ToolStatus.isTerminal]
  | completed | failed =>
    cases error : c.error <;> simp [call, status, result, error, whole, ToolStatus.isTerminal]

/-- What is shown of a call is its whole view cut to the lines that may be shown; the lines left
out are counted unless the call has its result and more than one of them is. -/
theorem callCut (c : ToolCall) (most : Nat) :
    (call c most).title = (call c 0).title ∧ (call c most).tone = (call c 0).tone ∧
    (most = 0 ∨ (call c 0).lines.length ≤ most → (call c most).lines = (call c 0).lines) ∧
    (0 < most → most < (call c 0).lines.length → (call c most).lines =
      (call c 0).lines.take most ++ [View.hiddenLine
        (if c.status.isTerminal then 1 else (call c 0).lines.length - most)]) ∧
    (View.Counts (call c 0).lines (call c most).lines most ↔
      (c.status.isTerminal = true → most = 0 ∨ (call c 0).lines.length ≤ most + 1)) := by
  have cut := callTruncates c most
  generalize call c most = shown at cut
  generalize call c 0 = full at cut
  have frame : shown.title = full.title ∧ shown.tone = full.tone := by
    have once := full.truncateFrame most
    have twice := (full.truncate most).truncateFrame most
    rw [cut]
    split
    · exact ⟨twice.1.trans once.1, twice.2.trans once.2⟩
    · exact once
  have whole (fits : most = 0 ∨ full.lines.length ≤ most) : shown.lines = full.lines := by
    rw [cut, View.truncateWhole fits, View.truncateWhole fits, ite_self]
  have part (positive : 0 < most) (long : most < full.lines.length) : shown.lines =
      full.lines.take most ++ [View.hiddenLine
        (if c.status.isTerminal then 1 else full.lines.length - most)] := by
    rw [cut]
    split
    · rw [View.truncateTwice positive long]
    · rw [View.truncateCut positive long]
  refine ⟨frame.1, frame.2, whole, part, ?_⟩
  constructor
  · intro counts ended
    rcases Nat.eq_zero_or_pos most with zero | positive
    · exact .inl zero
    rcases Nat.lt_or_ge most full.lines.length with long | short
    · have lines := (part positive long).symm.trans (counts.cut positive long)
      rw [if_pos ended] at lines
      have one := View.hiddenInjective (List.singleton_inj.mp (List.append_cancel_left lines))
      exact .inr (by omega)
    · exact .inr (Nat.le_succ_of_le short)
  · intro exact
    refine ⟨whole, fun positive long => ?_⟩
    rw [part positive long]
    split
    · rename_i ended
      have one : full.lines.length - most = 1 := by
        have less := exact ended
        omega
      rw [one]
      rfl
    · rfl

def finishedRead : ToolCall :=
  { ToolCall.new "id" "read_file" with
    status := .completed, result := some (.string "1\n2\n3\n4\n5") }

theorem finishedMiscounted : (call finishedRead 0).lines.length = 5 ∧
    (call finishedRead 2).lines =
      [⟨.code, "1"⟩, ⟨.code, "2"⟩, ⟨.muted, "… 1 more lines"⟩] ∧
    ¬View.Counts (call finishedRead 0).lines (call finishedRead 2).lines 2 := by
  refine ⟨by decide +kernel, by decide +kernel, fun counts => ?_⟩
  have lines := counts.cut (by decide) (by decide +kernel)
  revert lines
  decide +kernel

end Display
end ChaincodeConsole
