import ChaincodeConsole.Chat.Turn
import ChaincodeConsole.Proofs.Chat.Runs
import ChaincodeConsole.Proofs.Server.Streams

/-! A turn in any order of its steps. What the stream has passed on is, at each time, what the
session has taken, what waits in the queue and what is still to be sent, in this order. So a turn
that is over has taken all of it, and its end is that of the stream. -/
namespace ChaincodeConsole

open ChaincodeConsole.Stream (Decoder)

namespace Dialogue

@[simp] theorem recordSession (d : Dialogue) (now : Timestamp) :
    (d.record now).session = d.session := by
  unfold record
  split <;> rfl

@[simp] theorem recordFiles (d : Dialogue) (now : Timestamp) :
    (d.record now).files = d.files := by
  unfold record
  split <;> rfl

end Dialogue

def TurnStep.input? : TurnStep → Option StreamInput
  | .stream input => some input
  | _ => none

namespace Turn

def inputs (steps : List TurnStep) : List StreamInput := steps.filterMap TurnStep.input?

def received (steps : List TurnStep) : List (List UInt8) :=
  (inputs steps).filterMap StreamInput.chunk?

inductive Moved (t : Turn) : TurnStep → Turn → Prop where
  | stream {input : StreamInput} {events : List Event} {s : EventStream} (sent : t.unsent = [])
      (stop : input = .stop → t.stopping = true) (step : t.stream.step input = some (events, s)) :
      Moved t (.stream input) { t with stream := s, unsent := events }
  | send {e : Event} {rest : List Event} (next : t.unsent = e :: rest) :
      Moved t .send { t with unsent := rest, queue := t.queue ++ [e] }
  | deliver {e : Event} {rest : List Event} (next : t.queue = e :: rest) :
      Moved t .deliver ({ t with queue := rest }.take e)
  | preview : Moved t .preview
      { t with
        dialogue := (t.dialogue.write (Terminal.preview t.dialogue.session)).2
        out := t.out ++ (t.dialogue.write (Terminal.preview t.dialogue.session)).1 }
  | interrupt : Moved t .interrupt { t with stopping := true }
  | reloaded {reload : Nat} {outcome : Option (List FileEntry)} {files : FileList}
      (ended : t.dialogue.files.endReload reload outcome = some files) :
      Moved t (.reloaded reload outcome) (t.withFiles files)
  | receive {files : FileList} (received : t.dialogue.files.receive = some files) :
      Moved t .receive (t.withFiles files)

theorem stepMoved {t next : Turn} {step : TurnStep} (ok : t.step step = some next) :
    t.Moved step next := by
  cases step with
  | stream input =>
    simp only [Turn.step] at ok
    split at ok
    · cases ok
    · rename_i free
      obtain ⟨sent, stop⟩ := not_or.mp free
      obtain ⟨⟨events, s⟩, moved, rfl⟩ := Option.map_eq_some_iff.mp ok
      exact .stream (by simpa using sent) (by simpa using stop) moved
  | send =>
    simp only [Turn.step] at ok
    split at ok
    · cases ok
    · rename_i next
      cases ok
      exact .send next
  | deliver =>
    simp only [Turn.step] at ok
    split at ok
    · cases ok
    · rename_i next
      cases ok
      exact .deliver next
  | preview =>
    cases ok
    exact .preview
  | interrupt =>
    cases ok
    exact .interrupt
  | reloaded reload outcome =>
    obtain ⟨files, ended, rfl⟩ := Option.map_eq_some_iff.mp ok
    exact .reloaded ended
  | receive =>
    obtain ⟨files, received, rfl⟩ := Option.map_eq_some_iff.mp ok
    exact .receive received

theorem runCons {t last : Turn} {step : TurnStep} {rest : List TurnStep}
    (ran : t.run (step :: rest) = some last) :
    ∃ next, t.Moved step next ∧ next.run rest = some last := by
  obtain ⟨next, moved, later⟩ := Option.bind_eq_some_iff.mp ran
  exact ⟨next, stepMoved moved, later⟩

structure Follows (first : Session) (steps : List TurnStep) (taken : List Event) (t : Turn) :
    Prop where
  heard : EventStream.Heard (inputs steps) (taken ++ t.queue ++ t.unsent) t.stream
  session : t.dialogue.session = first.run (taken.map .event)
  stopping : t.stopping = true → .interrupt ∈ steps
  stopped : .stop ∈ inputs steps → .interrupt ∈ steps

theorem followsStart (d : Dialogue) (now : Timestamp) (prompt : String) :
    Follows (d.session.submit prompt) [] [] (start d now prompt) :=
  ⟨.nothing, by simp [start, Session.run], nofun, nofun⟩

theorem takeSession (t : Turn) (e : Event) :
    (t.take e).dialogue.session = (t.dialogue.session.apply e).session := rfl

theorem inputsSnoc (steps : List TurnStep) (step : TurnStep) :
    inputs (steps ++ [step]) = inputs steps ++ step.input?.toList := by
  rw [inputs, List.filterMap_append]
  cases h : step.input? <;> simp [h, inputs]

theorem followsStep {first : Session} {steps : List TurnStep} {taken : List Event} {t next : Turn}
    (law : Follows first steps taken t) {step : TurnStep} (moved : t.Moved step next) :
    ∃ more, Follows first (steps ++ [step]) (taken ++ more) next := by
  have later (interrupted : .interrupt ∈ steps) : .interrupt ∈ steps ++ [step] :=
    List.mem_append_left _ interrupted
  -- What the stream does not hear leaves the account of it as it is.
  have silent (unread : step.input? = .none) : inputs (steps ++ [step]) = inputs steps := by
    rw [inputsSnoc, unread, Option.toList_none, List.append_nil]
  cases moved with
  | @stream input events s sent stop moved =>
    have hears : inputs (steps ++ [.stream input]) = inputs steps ++ [input] :=
      inputsSnoc steps (.stream input)
    refine ⟨[], ?_, by simpa using law.session, fun on => later (law.stopping on), ?_⟩
    · have heard := EventStream.heardStep law.heard moved
      simpa [hears, sent] using heard
    · rw [hears, List.mem_append, List.mem_singleton]
      rintro (before | now)
      · exact later (law.stopped before)
      · exact later (law.stopping (stop now.symm))
  | @send e rest next =>
    refine ⟨[], ?_, by simpa using law.session, fun on => later (law.stopping on),
      fun stopped => later (law.stopped (silent rfl ▸ stopped))⟩
    have heard := law.heard
    simpa [silent rfl, next] using heard
  | @deliver e rest next =>
    refine ⟨[e], ?_, ?_, fun on => later (law.stopping on),
      fun stopped => later (law.stopped (silent rfl ▸ stopped))⟩
    · have heard := law.heard
      simpa [silent rfl, next, take] using heard
    · rw [takeSession, law.session, List.map_append, Session.runAppend]
      rfl
  | interrupt =>
    have now : .interrupt ∈ steps ++ [.interrupt] := List.mem_append_right _ List.mem_cons_self
    refine ⟨[], ?_⟩
    rw [List.append_nil]
    exact ⟨silent rfl ▸ law.heard, law.session, fun _ => now, fun _ => now⟩
  | preview | reloaded | receive =>
    refine ⟨[], ?_⟩
    rw [List.append_nil]
    exact ⟨silent rfl ▸ law.heard, law.session, fun on => later (law.stopping on),
      fun stopped => later (law.stopped (silent rfl ▸ stopped))⟩

theorem followsRun {first : Session} {steps : List TurnStep} {taken : List Event} {t last : Turn}
    (law : Follows first steps taken t) {rest : List TurnStep} (ran : t.run rest = some last) :
    ∃ more, Follows first (steps ++ rest) (taken ++ more) last := by
  induction rest generalizing steps taken t with
  | nil =>
    cases ran
    exact ⟨[], by simpa using law⟩
  | cons step rest ih =>
    obtain ⟨next, moved, later⟩ := runCons ran
    obtain ⟨more, law⟩ := followsStep law moved
    obtain ⟨others, law⟩ := ih law later
    exact ⟨more ++ others, by simpa using law⟩

def ending : Except Failure Stream.Stats → Session.Action
  | .ok _ => .finish
  | .error f => if f.isAborted then .abort else .fail f.message

theorem settleEnds (d : Dialogue) (outcome : Except Failure Stream.Stats) :
    ∃ terminal, (settle d outcome).2 =
      { d with session := d.session.act (ending outcome), terminal := terminal } := by
  unfold settle ending
  cases outcome with
  | ok stats => exact ⟨_, rfl⟩
  | error f =>
    dsimp only
    split <;> exact ⟨_, rfl⟩

theorem closeCases {t : Turn} {now : Timestamp} {out : List Emission} {after : Dialogue}
    (closed : t.close? now = some (out, after)) : ∃ outcome terminal,
      t.stream = .ended outcome ∧ t.unsent = [] ∧ t.queue = [] ∧
      after = { t.dialogue with
        session := t.dialogue.session.act (ending outcome), terminal := terminal }.record now := by
  unfold close? at closed
  split at closed
  · rename_i outcome stream unsent queue
    obtain ⟨terminal, settled⟩ := settleEnds t.dialogue outcome
    cases closed
    exact ⟨outcome, terminal, stream, unsent, queue, congrArg (·.record now) settled⟩
  · cases closed

theorem endingCloses (s : Session) (outcome : Except Failure Stream.Stats) :
    (s.act (ending outcome)).settled = s.messages ∧ (s.act (ending outcome)).reply = none ∧
      (s.act (ending outcome)).loading = false ∧ (s.act (ending outcome)).active = none := by
  unfold ending
  cases outcome with
  | ok stats => exact ⟨rfl, rfl, rfl, rfl⟩
  | error f =>
    dsimp only
    split <;> exact ⟨rfl, rfl, rfl, rfl⟩

theorem endingError {s : Session} (clean : s.lastError = .none)
    (outcome : Except Failure Stream.Stats) : (s.act (ending outcome)).lastError.isSome ↔
      ∃ f, outcome = .error f ∧ f.isAborted = false := by
  unfold ending
  cases outcome with
  | ok stats => simp [Session.act, Session.finish, Session.endTurn, Session.settle, clean]
  | error f =>
    cases aborted : f.isAborted with
    | false => simp [Session.act, Session.fail, aborted]
    | true =>
      simp [Session.act, Session.abort, Session.endTurn, Session.settle, clean, aborted]

/-- What a turn that is over has made of a session: it has taken the events in their order, each
once, and then has ended as the request did. -/
structure Settled (first : Session) (reply : Delivery) (steps : List TurnStep)
    (taken : List Event) (outcome : Except Failure Stream.Stats) (after : Session) : Prop where
  session : after = (first.run (taken.map .event)).act (ending outcome)
  order : taken <+: (Decoder.decodeAll (received steps)).1
  whole : ∀ stats, outcome = .ok stats → ∃ r, reply = .ok r ∧ r.isSuccess = true ∧
    r.complete = true ∧ Decoder.decodeAll r.chunks = (taken, stats)
  stopped : ∀ f, outcome = .error f → f.isAborted = true → .interrupt ∈ steps
  failed : ∀ f, outcome = .error f → f.isAborted = false → reply.failure? = some f
  idle : after.loading = false ∧ after.active = none
  closed : ∀ i, i < after.messages.length → after.sealedAt i = true
  error : after.lastError.isSome ↔ ∃ f, outcome = .error f ∧ f.isAborted = false

theorem turnSettles (d : Dialogue) (begun ended : Timestamp) (prompt : String) (reply : Delivery)
    (steps : List TurnStep) (t : Turn) (out : List Emission) (after : Dialogue)
    (ran : (start d begun prompt).run steps = some t)
    (served : (inputs steps).filter (· != .stop) <+: reply.inputs)
    (closed : t.close? ended = some (out, after)) :
    ∃ taken outcome, t.stream = .ended outcome ∧
      Settled (d.session.submit prompt) reply steps taken outcome after.session := by
  obtain ⟨taken, law⟩ := followsRun (followsStart d begun prompt) ran
  obtain ⟨outcome, terminal, done, unsent, queue, rfl⟩ := closeCases closed
  rw [List.nil_append, List.nil_append] at law
  have heard := law.heard
  rw [done, unsent, queue, List.append_nil, List.append_nil] at heard
  obtain ⟨whole, failed⟩ := EventStream.heardEnd heard served
  obtain ⟨-, closes, idle⟩ :=
    endingCloses ((d.session.submit prompt).run (taken.map .event)) outcome
  refine ⟨taken, outcome, done, ?_⟩
  rw [Dialogue.recordSession, law.session]
  exact {
    session := rfl
    order := EventStream.heardPrefix heard
    whole := whole
    stopped := fun f error aborted =>
      law.stopped (by simpa [aborted] using failed f error)
    failed := fun f error genuine => by simpa [genuine] using failed f error
    idle := idle
    closed := fun i inside => by
      rw [NotedSession.messagesSettled closes] at inside
      exact decide_eq_true inside
    error := endingError (Session.eventsKeep _ taken).2 outcome }

def chunkOne : List UInt8 :=
  Text.utf8 "data: \x7b\"type\":\"llm\",\"content\":\"a\"\x7d\nda"

def chunkTwo : List UInt8 := Text.utf8 "ta: \x7b\"type\":\"llm\",\"content\":\"b\"\x7d"

def cutReply : Delivery := .ok ⟨200, [chunkOne, chunkTwo], true⟩

-- The body has ended when the interrupt comes, and an event of it is still to be sent.
def lateSteps : List TurnStep :=
  [.stream .accepted, .stream (.chunk chunkOne), .send, .preview, .stream (.chunk chunkTwo),
    .stream .close, .interrupt, .deliver, .send, .deliver]

def fresh : Dialogue := .start 3 ⟨false, false, true, 20⟩ none

def noon : Timestamp := ⟨⟨2031, 7, 19⟩, 720, 0, 0⟩

theorem lateInterruptSettles :
    ∃ t out after, (start fresh noon "q").run lateSteps = some t ∧
      (inputs lateSteps).filter (· != .stop) <+: cutReply.inputs ∧
      t.close? noon = some (out, after) ∧
      ∃ taken outcome, t.stream = .ended outcome ∧
        Settled (fresh.session.submit "q") cutReply lateSteps taken outcome after.session :=
  ⟨_, _, _, rfl, by decide, rfl,
    turnSettles fresh noon noon "q" cutReply lateSteps _ _ _ rfl (by decide) rfl⟩

end Turn
end ChaincodeConsole
