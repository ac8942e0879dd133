import ChaincodeConsole.Proofs.Chat.Sessions

/-! Runs of a session from its history on, and what the tool hook is told in their course. A tool
event goes into its call while that is running and is ignored otherwise. `Step` says all that an
action can do to the messages, short of clearing them; the laws of runs are cases on it. -/
namespace ChaincodeConsole

namespace ToolCall

def outcome (c : ToolCall) : String × Json := (c.name, c.result.getD .null)

def report? (c : ToolCall) : Option (String × Json) :=
  if c.status = .completed then some c.outcome else none

end ToolCall

namespace Session

def ofTexts (history : List (Role × String)) : Session :=
  .ofHistory (history.map fun (role, content) => .ofText role content)

def run (s : Session) (actions : List Action) : Session := actions.foldl act s

def report? (s : Session) : Action → Option (Event × String × Json)
  | .event e => (s.apply e).completed.map (e, ·)
  | _ => none

def reports (s : Session) : List Action → List (Event × String × Json)
  | [] => []
  | a :: rest => (s.report? a).toList ++ (s.act a).reports rest

theorem runAppend (s : Session) (front rest : List Action) :
    s.run (front ++ rest) = (s.run front).run rest := List.foldl_append

theorem reportsAppend (s : Session) (front rest : List Action) :
    s.reports (front ++ rest) = s.reports front ++ (s.run front).reports rest := by
  induction front generalizing s with
  | nil => rfl
  | cons a front ih =>
    rw [List.cons_append, reports, reports, ih, List.append_assoc]
    rfl

theorem toolCases (s : Session) (phase : Phase) (e : ToolEvent) :
    (e.toolCallId = "" ∨ (s.callFor e.toolCallId e.name).status.isTerminal = true) ∧
        s.applyTool phase e = ⟨s, .ignored, none⟩ ∨
      e.toolCallId ≠ "" ∧ (s.callFor e.toolCallId e.name).status.isTerminal = false ∧
        ∃ call, call = (s.callFor e.toolCallId e.name).advance phase e ∧
          s.applyTool phase e =
            ⟨s.putCall call (if phase = .result then none else some call.execution),
              .tool e.toolCallId phase, call.report?⟩ := by
  by_cases ignored : e.toolCallId.isEmpty ∨ (s.callFor e.toolCallId e.name).status.isTerminal
  · exact .inl ⟨by simpa using ignored, by simp only [applyToolFor, if_pos ignored]⟩
  · obtain ⟨named, running⟩ := not_or.mp ignored
    refine .inr ⟨by simpa using named, by simpa using running, _, rfl, ?_⟩
    simp only [applyToolFor, if_neg ignored]
    rfl

theorem eventsKeep (s : Session) (events : List Event) :
    (s.run (events.map .event)).settled = s.settled ∧
      (s.run (events.map .event)).lastError = s.lastError := by
  induction events generalizing s with
  | nil => exact ⟨rfl, rfl⟩
  | cons e rest ih =>
    have first : (s.apply e).session.settled = s.settled ∧
        (s.apply e).session.lastError = s.lastError := by
      cases e with
      | reply content =>
        rw [apply]
        split <;> exact ⟨rfl, rfl⟩
      | tool phase e =>
        rw [apply]
        rcases s.toolCases phase e with ⟨-, applied⟩ | ⟨-, -, call, -, applied⟩ <;> rw [applied] <;>
          exact ⟨rfl, rfl⟩
      | stepLimit message => exact ⟨rfl, rfl⟩
    exact ⟨(ih _).1.trans first.1, (ih _).2.trans first.2⟩

theorem advancedId (s : Session) (phase : Phase) (e : ToolEvent) :
    ((s.callFor e.toolCallId e.name).advance phase e).id = e.toolCallId := by
  rw [ToolCall.advanceId, NotedSession.callForId]

theorem oldRunning {s : Session} {phase : Phase} {e : ToolEvent} {call : ToolCall}
    (running : (s.callFor e.toolCallId e.name).status.isTerminal = false)
    (advanced : call = (s.callFor e.toolCallId e.name).advance phase e) (old : ToolCall)
    (found : Part.findCall? call.id (s.reply.getD []) = some old) :
    old.status.isTerminal = false := by
  rw [advanced, advancedId] at found
  rwa [callFor, found] at running

/-- What an action other than clearing does: it adds messages without calls, or it changes the
parts of the open reply, by a text or by an event of a call that is still running. -/
inductive Step (s : Session) : Action → Session → Option (Event × String × Json) → Prop where
  | rest {a : Action} {t : Session} (more : List Message)
      (added : t.messages = s.messages ++ more) (texts : ∀ m ∈ more, m.calls = [])
      (settled : s.settled.length ≤ t.settled.length) : Step s a t none
  | text {t : Session} (content : String) (settled : t.settled = s.settled)
      (reply : t.reply = some (Part.addText content (s.reply.getD []))) :
      Step s (.event (.reply content)) t none
  | tool {t : Session} (phase : Phase) (e : ToolEvent) (call : ToolCall)
      (running : (s.callFor e.toolCallId e.name).status.isTerminal = false)
      (advanced : call = (s.callFor e.toolCallId e.name).advance phase e)
      (settled : t.settled = s.settled)
      (reply : t.reply = some (Part.putCall call (s.reply.getD []))) :
      Step s (.event (.tool phase e)) t (call.report?.map (.tool phase e, ·))

theorem actStep (s : Session) {a : Action} (kept : a ≠ .clear) :
    s.Step a (s.act a) (s.report? a) := by
  have closed {t : Session} (settled : t.settled = s.messages) (closed : t.reply = none) :
      t.messages = s.messages ++ [] ∧ s.settled.length ≤ t.settled.length := by
    rw [NotedSession.messagesSettled closed, settled, messages, List.length_append]
    exact ⟨(List.append_nil _).symm, Nat.le_add_right _ _⟩
  -- What is ignored adds no message, and neither does the end of a turn.
  have same {e : Event} (ignored : s.apply e = ⟨s, .ignored, none⟩) :
      s.Step (.event e) (s.act (.event e)) (s.report? (.event e)) := by
    rw [act, report?, ignored]
    exact .rest [] (by simp) (by simp) (Nat.le_refl _)
  cases a with
  | submit content =>
    refine .rest [.ofText .user content] (NotedSession.messagesSettled rfl) ?_ ?_
    · simp [Message.ofText, Message.calls]
    · simp only [act, submit, messages, List.length_append]
      omega
  | event e =>
    cases e with
    | reply content =>
      by_cases empty : content = ""
      · exact same (by simp [apply, empty])
      · simp only [act, report?, apply, String.isEmpty_iff, if_neg empty]
        exact .text content rfl rfl
    | tool phase e =>
      rcases s.toolCases phase e with ⟨-, ignored⟩ | ⟨-, running, call, advanced, applied⟩
      · exact same ignored
      · simp only [act, report?, apply, applied]
        exact .tool phase e call running advanced rfl rfl
    | stepLimit message => exact .rest [] (by simp [act, apply, messages]) (by simp) (Nat.le_refl _)
  | finish => exact .rest [] (closed rfl rfl).1 (by simp) (closed rfl rfl).2
  | abort => exact .rest [] (closed rfl rfl).1 (by simp) (closed rfl rfl).2
  | fail error => exact .rest [] (closed rfl rfl).1 (by simp) (closed rfl rfl).2
  | clear => exact absurd rfl kept

theorem runKeeps {P : Session → Prop} {s : Session} (first : P s)
    (step : ∀ s a, a ≠ .clear → P s → P (s.act a)) {actions : List Action}
    (kept : .clear ∉ actions) : P (s.run actions) := by
  induction actions generalizing s with
  | nil => exact first
  | cons a rest ih =>
    obtain ⟨head, tail⟩ := not_or.mp (List.mem_cons.not.mp kept)
    exact ih (step s a (Ne.symm head) first) tail

end Session
end ChaincodeConsole
