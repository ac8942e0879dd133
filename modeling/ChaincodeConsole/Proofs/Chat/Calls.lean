import ChaincodeConsole.Chat.ToolCall

/-! A call in the course of its events. It keeps its id; until its result it has neither result
nor error, and with its result it has an error exactly if it failed. -/
namespace ChaincodeConsole.ToolCall

structure Sound (c : ToolCall) : Prop where
  failed : (∃ e, c.error = some e ∧ e ≠ "") ↔ c.status = .failed
  filled : c.error ≠ some ""
  result : c.result.isSome → c.status = .completed ∨ c.status = .failed

@[simp] theorem renameId (c : ToolCall) (name : String) : (c.rename name).id = c.id := by
  unfold rename
  split <;> rfl

@[simp] theorem renameStatus (c : ToolCall) (name : String) :
    (c.rename name).status = c.status := by
  unfold rename
  split <;> rfl

@[simp] theorem renameOutcome (c : ToolCall) (name : String) :
    (c.rename name).error = c.error ∧ (c.rename name).result = c.result := by
  unfold rename
  split <;> exact ⟨rfl, rfl⟩

theorem renameArguments (c : ToolCall) (name : String) :
    (c.rename name).arguments = c.arguments ∧ (c.rename name).parsed = c.parsed := by
  unfold rename
  split <;> exact ⟨rfl, rfl⟩

theorem startUnread (c : ToolCall) {e : ToolEvent}
    (bare : ∀ a, e.arguments = some a → isPlaceholder a = true) :
    c.advance .start e = c.rename e.name := by
  simp only [advance, onStart]
  cases given : e.arguments with
  | none => rfl
  | some a => exact if_pos (bare a given)

theorem withArgumentsKeeps (c : ToolCall) (arguments : String) :
    (c.withArguments arguments).id = c.id ∧ (c.withArguments arguments).status = c.status ∧
      (c.withArguments arguments).error = c.error ∧
      (c.withArguments arguments).result = c.result := by
  unfold withArguments
  split <;> exact ⟨rfl, rfl, rfl, rfl⟩

theorem advanceId (c : ToolCall) (phase : Phase) (e : ToolEvent) :
    (c.advance phase e).id = c.id := by
  cases phase with
  | start =>
    simp only [advance, onStart]
    split <;> try split
    all_goals simp [withArgumentsKeeps]
  | update =>
    simp only [advance, onUpdate]
    split <;> simp [addFragment, withArgs, withArgumentsKeeps]
  | execute =>
    simp only [advance, onExecute]
    split <;> simp [withArgs]
  | result => simp [advance, onResult]

theorem advanceOutcome (c : ToolCall) {phase : Phase} (before : phase ≠ .result) (e : ToolEvent) :
    (c.advance phase e).error = c.error ∧ (c.advance phase e).result = c.result ∧
      (c.status.isTerminal = false → (c.advance phase e).status.isTerminal = false) := by
  cases phase with
  | start =>
    simp only [advance, onStart]
    split <;> try split
    all_goals simp [withArgumentsKeeps]
  | update =>
    simp only [advance, onUpdate]
    split <;> simp [addFragment, withArgs, withArgumentsKeeps, ToolStatus.isTerminal]
  | execute =>
    simp only [advance, onExecute]
    split <;> simp [withArgs, ToolStatus.isTerminal]
  | result => contradiction

theorem soundNew (id name : String) : Sound (new id name) :=
  ⟨by simp [new], by simp [new], by simp [new]⟩

theorem soundRunning {c : ToolCall} (running : c.status.isTerminal = false) :
    Sound c ↔ c.error = none ∧ c.result = none := by
  constructor
  · intro sound
    constructor
    · cases h : c.error with
      | none => rfl
      | some e =>
        have filled : e ≠ "" := fun empty => sound.filled (by rw [h, empty])
        have failed := sound.failed.mp ⟨e, h, filled⟩
        rw [failed] at running
        contradiction
    · cases h : c.result with
      | none => rfl
      | some r =>
        rcases sound.result (by rw [h]; rfl) with ended | ended <;>
          · rw [ended] at running
            contradiction
  · rintro ⟨error, result⟩
    refine ⟨?_, by simp [error], by simp [result]⟩
    constructor
    · rintro ⟨e, given, -⟩
      rw [error] at given
      contradiction
    · intro failed
      rw [failed] at running
      contradiction

theorem soundResult (c : ToolCall) (e : ToolEvent) : Sound (c.advance .result e) := by
  simp only [advance, onResult]
  cases h : e.error with
  | none => exact ⟨by simp, by simp, by simp⟩
  | some text =>
    by_cases empty : text = ""
    · exact ⟨by simp [empty], by simp [empty], by simp [empty]⟩
    · exact ⟨by simp [empty], by simp [empty], by simp [empty]⟩

theorem soundAdvance {c : ToolCall} (sound : Sound c) (running : c.status.isTerminal = false)
    (phase : Phase) (e : ToolEvent) : Sound (c.advance phase e) := by
  -- The result settles both anew; before it neither is touched, and a running call has none.
  by_cases last : phase = .result
  · rw [last]
    exact soundResult c e
  · obtain ⟨error, result, still⟩ := advanceOutcome c last e
    rw [soundRunning (still running), error, result]
    exact (soundRunning running).mp sound

end ChaincodeConsole.ToolCall
