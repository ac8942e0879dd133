import ChaincodeConsole.Proofs.Chat.Fragments

/-! The life of a call in the open reply, from its start to its result. An event of its id moves
it on or leaves it where it is, but for an update of a call that executes already: that one takes
the call back to streaming and adds to arguments that were final. While no such event and no start
with arguments of its own comes, the status never falls and the arguments stay those executed. -/
namespace ChaincodeConsole

namespace ToolStatus

def rank : ToolStatus → Nat
  | .started => 0
  | .streaming => 1
  | .executing => 2
  | .completed | .failed => 3

end ToolStatus

namespace ToolCall

/-- Whether an event of a call brings arguments that are not yet final, or stands for some. -/
def gathers (phase : Phase) (e : ToolEvent) : Bool :=
  match phase with
  | .start => e.arguments.any (!isPlaceholder ·)
  | .update => true
  | .execute | .result => false

structure Executed (c : ToolCall) (args : Json) : Prop where
  status : 2 ≤ c.status.rank
  arguments : c.arguments = args.text
  parsed : c.parsed = args

theorem advanceStatus (c : ToolCall) (phase : Phase) (e : ToolEvent) :
    (c.advance phase e).status = match phase with
      | .start => c.status
      | .update => .streaming
      | .execute => .executing
      | .result => if (e.error.filter (!·.isEmpty)).isSome then .failed else .completed := by
  cases phase with
  | start =>
    simp only [advance, onStart]
    split <;> try split
    all_goals simp [withArgumentsKeeps]
  | update => rfl
  | execute => rfl
  | result => rfl

theorem runningRank {c : ToolCall} (running : c.status.isTerminal = false) :
    c.status.rank < 3 := by
  cases status : c.status <;> simp_all [ToolStatus.isTerminal, ToolStatus.rank]

theorem advanceForward {c : ToolCall} (running : c.status.isTerminal = false) {phase : Phase}
    {e : ToolEvent} (timely : c.status = .executing → gathers phase e = false) :
    c.status.rank ≤ (c.advance phase e).status.rank := by
  have below := runningRank running
  rw [advanceStatus]
  cases phase with
  | start => exact Nat.le_refl _
  | update =>
    cases status : c.status with
    | executing => cases timely status
    | completed | failed => simp [status, ToolStatus.isTerminal] at running
    | started | streaming => simp [ToolStatus.rank]
  | execute => exact Nat.le_of_lt_succ below
  | result =>
    dsimp only
    split <;> exact Nat.le_of_lt below

theorem executeSets (c : ToolCall) {e : ToolEvent} {args : Json} (given : e.args = some args) :
    (c.advance .execute e).Executed args := by
  simp only [advance, onExecute, given, withArgs]
  exact ⟨Nat.le_refl 2, rfl, rfl⟩

theorem executedKept {c : ToolCall} {args : Json} (executed : c.Executed args)
    (running : c.status.isTerminal = false) {phase : Phase} {e : ToolEvent}
    (timely : c.status = .executing → gathers phase e = false)
    (final : phase = .execute → e.args = none) : (c.advance phase e).Executed args := by
  have executing : c.status = .executing := by
    have reached := executed.status
    cases status : c.status <;> simp_all [ToolStatus.isTerminal, ToolStatus.rank]
  obtain ⟨text, value⟩ := renameArguments c e.name
  have status := Nat.le_trans executed.status (advanceForward running timely)
  -- What is left of each phase keeps the arguments; an update would not be timely here.
  cases phase with
  | start =>
    have bare : ∀ a, e.arguments = some a → isPlaceholder a = true := by
      intro a given
      simpa [gathers, given] using timely executing
    rw [startUnread c bare] at status ⊢
    exact ⟨status, text.trans executed.arguments, value.trans executed.parsed⟩
  | update => cases timely executing
  | execute =>
    refine ⟨status, ?_, ?_⟩ <;> simp only [advance, onExecute, final rfl]
    · exact text.trans executed.arguments
    · exact value.trans executed.parsed
  | result => exact ⟨status, text.trans executed.arguments, value.trans executed.parsed⟩

end ToolCall

namespace Session

theorem eventCall {s : Session} {id : String} {c : ToolCall} (found : s.openCall? id = some c)
    (e : Event) : ∃ d, (s.apply e).session.openCall? id = some d ∧ (d = c ∨
      c.status.isTerminal = false ∧ ∃ phase f, e = .tool phase f ∧ f.toolCallId = id ∧
        d = c.advance phase f) := by
  cases own : e.isOf id with
  | false => exact ⟨c, (otherCall s own).trans found, .inl rfl⟩
  | true =>
    cases e with
    | tool phase f =>
      obtain rfl : f.toolCallId = id := by simpa [Event.isOf] using own
      have call : s.callFor f.toolCallId f.name = c := congrArg (Option.getD · _) found
      rcases s.toolCases phase f with ⟨-, ignored⟩ | ⟨-, running, d, advanced, applied⟩
      · exact ⟨c, by rw [apply, ignored]; exact found, .inl rfl⟩
      · refine ⟨d, ?_, .inr ⟨call ▸ running, phase, f, rfl, rfl, call ▸ advanced⟩⟩
        rw [apply, applied, ← s.advancedId phase f, ← advanced]
        exact putOpen s d _
    | _ => cases own

def isLate (s : Session) : Event → Bool
  | .tool phase e => ToolCall.gathers phase e &&
      (s.openCall? e.toolCallId).any (·.status == .executing)
  | _ => false

def isTimely (s : Session) : List Event → Bool
  | [] => true
  | e :: rest => !s.isLate e && (s.apply e).session.isTimely rest

theorem timelyFirst {s : Session} {e : Event} {rest : List Event}
    (timely : s.isTimely (e :: rest) = true) :
    s.isLate e = false ∧ (s.apply e).session.isTimely rest = true := by
  simpa [isTimely] using timely

theorem timelyCall {s : Session} {id : String} {c : ToolCall} (found : s.openCall? id = some c)
    {phase : Phase} {e : ToolEvent} (own : e.toolCallId = id)
    (timely : s.isLate (.tool phase e) = false) (executing : c.status = .executing) :
    ToolCall.gathers phase e = false := by
  simpa [isLate, own, found, executing] using timely

theorem timelyAppend {s : Session} {front rest : List Event}
    (timely : s.isTimely (front ++ rest) = true) :
    (s.run (front.map .event)).isTimely rest = true := by
  induction front generalizing s with
  | nil => exact timely
  | cons e front ih => exact ih (timelyFirst timely).2

theorem eventsForward {s : Session} {events : List Event} (timely : s.isTimely events = true)
    {id : String} {c : ToolCall} (found : s.openCall? id = some c) :
    ∃ d, (s.run (events.map .event)).openCall? id = some d ∧ c.status.rank ≤ d.status.rank := by
  induction events generalizing s c with
  | nil => exact ⟨c, found, Nat.le_refl _⟩
  | cons e rest ih =>
    obtain ⟨first, others⟩ := timelyFirst timely
    obtain ⟨d, next, same | ⟨running, phase, f, rfl, own, advanced⟩⟩ := eventCall found e
    · subst same
      exact ih others next
    · obtain ⟨last, reached, later⟩ := ih others next
      have first := ToolCall.advanceForward running (timelyCall found own first)
      exact ⟨last, reached, Nat.le_trans (advanced ▸ first) later⟩

theorem eventsExecuted {s : Session} {events : List Event} (timely : s.isTimely events = true)
    {id : String} (final : ∀ f, .tool .execute f ∈ events → f.toolCallId = id → f.args = none)
    {c : ToolCall} (found : s.openCall? id = some c) {args : Json} (executed : c.Executed args) :
    ∃ d, (s.run (events.map .event)).openCall? id = some d ∧ d.Executed args := by
  induction events generalizing s c with
  | nil => exact ⟨c, found, executed⟩
  | cons e rest ih =>
    obtain ⟨first, others⟩ := timelyFirst timely
    have later : ∀ f, .tool .execute f ∈ rest → f.toolCallId = id → f.args = none :=
      fun f inside => final f (List.mem_cons_of_mem e inside)
    obtain ⟨d, next, same | ⟨running, phase, f, rfl, own, advanced⟩⟩ := eventCall found e
    · subst same
      exact ih others later next executed
    · refine ih others later next (advanced ▸ ?_)
      exact ToolCall.executedKept executed running (timelyCall found own first)
        fun execute => final f (by rw [execute]; exact List.mem_cons_self) own

/-- While no event comes too late for its call, no call falls back in its life, and the arguments
of a call stay those that it was last executed with. -/
theorem lifecycleForward (s : Session) (events : List Event) (timely : s.isTimely events = true) :
    (s.run (events.map .event)).settled = s.settled ∧
    (∀ id c, s.openCall? id = some c → ∃ d,
      (s.run (events.map .event)).openCall? id = some d ∧ c.status.rank ≤ d.status.rank) ∧
    ∀ before e after args, events = before ++ .tool .execute e :: after →
      e.toolCallId ≠ "" → e.args = some args →
      ((s.run (before.map .event)).callFor e.toolCallId e.name).status.isTerminal = false →
      (∀ f, .tool .execute f ∈ after → f.toolCallId = e.toolCallId → f.args = none) →
      ∃ d, (s.run (events.map .event)).openCall? e.toolCallId = some d ∧
        d.arguments = args.text ∧ d.parsed = args := by
  refine ⟨(eventsKeep s events).1, fun id c found => eventsForward timely found, ?_⟩
  rintro before e after args rfl named given running final
  have rest := timelyAppend timely
  obtain ⟨d, found, executed⟩ := eventsExecuted (timelyFirst rest).2 final
    (ownRunning _ named running) (ToolCall.executeSets _ given)
  refine ⟨d, ?_, executed.arguments, executed.parsed⟩
  rw [List.map_append, runAppend]
  exact found

def executedWrite : ToolEvent :=
  { ToolEvent.ofId "1" with
    name := "write_file", args := some (.object [("path", .string "a.go")]) }

def restOfLife : List Event :=
  [.tool .execute executedWrite, .tool .start (fragment "1" "\x7b\x7d"), .reply "x",
    .tool .result (.ofId "1")]

theorem restOfLifeForward :
    let s := (ofTexts []).run [.submit "q", .event (.tool .start (.ofId "1")),
      .event (.tool .update (fragment "1" "\x7b"))]
    s.isTimely restOfLife = true ∧ (s.run (restOfLife.map .event)).settled = s.settled ∧
    (∃ c d, s.openCall? "1" = some c ∧ (s.run (restOfLife.map .event)).openCall? "1" = some d ∧
      c.status = .streaming ∧ c.status.rank ≤ d.status.rank) ∧
    ∃ d, (s.run (restOfLife.map .event)).openCall? "1" = some d ∧
      d.arguments = "\x7b\"path\":\"a.go\"\x7d" ∧
      d.parsed = .object [("path", .string "a.go")] := by
  intro s
  have timely : s.isTimely restOfLife = true := by decide +kernel
  obtain ⟨settled, forward, executed⟩ := lifecycleForward s restOfLife timely
  obtain ⟨d, reached, later⟩ := forward "1" _ rfl
  exact ⟨timely, settled, ⟨_, d, rfl, reached, rfl, later⟩, executed [] executedWrite
    [.tool .start (fragment "1" "\x7b\x7d"), .reply "x", .tool .result (.ofId "1")] _
    rfl (by decide) rfl (by decide +kernel) (by simp)⟩

theorem lateFragmentFalls :
    ∃ c d, ((ofTexts []).run [.submit "q", .event (.tool .execute executedWrite)]).openCall? "1" =
        some c ∧
      (((ofTexts []).run [.submit "q", .event (.tool .execute executedWrite)]).run
        [.event (.tool .update (fragment "1" "\x7d"))]).openCall? "1" = some d ∧
      d.status.rank < c.status.rank ∧ c.arguments = "\x7b\"path\":\"a.go\"\x7d" ∧
      d.arguments = "\x7b\"path\":\"a.go\"\x7d\x7d" ∧ d.parsed ≠ c.parsed :=
  ⟨_, _, rfl, rfl, by decide, rfl, rfl, by decide⟩

end Session
end ChaincodeConsole
