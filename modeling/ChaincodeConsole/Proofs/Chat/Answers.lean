import ChaincodeConsole.Proofs.Chat.Exchanges

/-! The answer of a turn is the message that its events open, and it is up to these events alone.
After the turn the last reply of the dialogue is the answer, or the one from before if there is
none. -/
namespace ChaincodeConsole

open ChaincodeConsole.Stream (Decoder)

def Event.opens : Event → Bool
  | .reply content => content != ""
  | .tool _ e => e.toolCallId != ""
  | .stepLimit _ => false

def Delivery.events : Delivery → List Event
  | .ok r =>
    if r.isSuccess then
      if r.complete then (Decoder.decodeAll r.chunks).1 else (Decoder.start.feed r.chunks).1
    else []
  | .error _ => []

namespace EventStream

theorem heardDelivery {reply : Delivery} {events : List Event}
    {outcome : Except Failure Stream.Stats}
    (heard : Heard reply.inputs events (.ended outcome)) : events = reply.events := by
  have goes := deliveryGoes reply
  generalize hears : reply.inputs = inputs at heard goes
  generalize ends : EventStream.ended outcome = s at heard
  have body {chunks : List (List UInt8)} {last : StreamInput} (plain : last.chunk? = .none)
      (same : reply.inputs = heardChunks chunks ++ [last]) : ∃ r, reply = .ok r ∧
        r.isSuccess = true ∧ r.chunks = chunks ∧ last = if r.complete then .close else .cut :=
    servedBody plain (same ▸ List.prefix_refl _)
  cases heard with
  | nothing | reading => cases ends
  | stopped | stoppedReading => simp at goes
  | unsent | refused =>
    have serves := servesInputs reply
    generalize reply.inputs = all at serves hears
    cases serves with
    | unsent => rfl
    | refused failed => simp [Delivery.events, failed]
    | delivered => cases hears
  | closed chunks =>
    obtain ⟨r, rfl, success, rfl, last⟩ := body rfl hears
    have whole : r.complete = true := by simpa using last
    simp [Delivery.events, success, whole]
  | cut chunks =>
    obtain ⟨r, rfl, success, rfl, last⟩ := body rfl hears
    have whole : r.complete = false := by simpa using last
    simp [Delivery.events, success, whole]

end EventStream

namespace Session

def answer? (events : List Event) : Option Message :=
  (empty.run (events.map .event)).reply.map (⟨.assistant, ·⟩)

theorem replyAlone {s t : Session} (same : s.reply = t.reply) (events : List Event) :
    (s.run (events.map .event)).reply = (t.run (events.map .event)).reply := by
  induction events generalizing s t with
  | nil => exact same
  | cons e rest ih =>
    refine ih ?_
    cases e with
    | reply content =>
      simp only [act, apply]
      split
      · exact same
      · simp only [addText, same]
    | tool phase e =>
      have call : s.callFor e.toolCallId e.name = t.callFor e.toolCallId e.name := by
        rw [callFor, callFor, same]
      simp only [act, apply, applyToolFor, call]
      split
      · exact same
      · simp only [putCall, same]
    | stepLimit message => exact same

theorem opensReply (s : Session) (e : Event) :
    (s.apply e).session.reply.isSome = (s.reply.isSome || e.opens) := by
  cases e with
  | reply content =>
    by_cases empty : content = ""
    · simp [apply, empty, Event.opens]
    · simp [apply, empty, Event.opens, addText]
  | tool phase e =>
    rcases s.toolCases phase e with ⟨ended, ignored⟩ | ⟨named, -, call, -, applied⟩
    · rw [apply, ignored]
      rcases ended with unnamed | terminal
      · simp [Event.opens, unnamed]
      · -- A call that has ended is in the reply.
        cases reply : s.reply with
        | none => simp [callFor, reply, Part.findCall?, ToolCall.new, ToolStatus.isTerminal]
            at terminal
        | some parts => rfl
    · simp [apply, applied, Event.opens, named, putCall]
  | stepLimit message => simp [apply, Event.opens]

theorem answerOpened (events : List Event) :
    (answer? events).isSome = events.any Event.opens := by
  have opened (s : Session) : (s.run (events.map .event)).reply.isSome =
      (s.reply.isSome || events.any Event.opens) := by
    induction events generalizing s with
    | nil => simp [run]
    | cons e rest ih =>
      have next := ih (s.apply e).session
      rw [opensReply, Bool.or_assoc] at next
      exact next
  rw [answer?, Option.isSome_map, opened]
  rfl

end Session

namespace Dialogue

theorem lastReplyAfter {d after : Dialogue} {prompt : String} {taken : List Event}
    {outcome : Except Failure Stream.Stats}
    (ends : after.session =
      ((d.session.submit prompt).run (taken.map .event)).act (Turn.ending outcome)) :
    after.lastReply? = (Session.answer? taken).or d.lastReply? := by
  obtain ⟨settled, closed, -⟩ :=
    Turn.endingCloses ((d.session.submit prompt).run (taken.map .event)) outcome
  have alone := Session.replyAlone (s := d.session.submit prompt) (t := .empty) rfl taken
  have kept := (Session.eventsKeep (d.session.submit prompt) taken).1
  rw [lastReply?, ends, NotedSession.messagesSettled closed, settled, Session.messages, kept,
    alone, Session.answer?]
  cases (Session.empty.run (taken.map .event)).reply with
  | none => simp [Session.submit, Message.ofText, lastReply?]
  | some parts => simp

end Dialogue

namespace Turn

theorem closedAnswer (d : Dialogue) (begun ended : Timestamp) (prompt : String)
    {steps : List TurnStep} {t : Turn} {out : List Emission} {after : Dialogue}
    (ran : (start d begun prompt).run steps = some t)
    (closed : t.close? ended = some (out, after)) : ∃ taken outcome,
      EventStream.Heard (inputs steps) taken (.ended outcome) ∧
      after.lastReply? = (Session.answer? taken).or d.lastReply? := by
  obtain ⟨taken, law⟩ := followsRun (followsStart d begun prompt) ran
  obtain ⟨outcome, terminal, done, unsent, queue, rfl⟩ := closeCases closed
  have heard := law.heard
  rw [done, unsent, queue, List.nil_append, List.append_nil, List.append_nil] at heard
  have ends : t.dialogue.session.act (ending outcome) =
      ((d.session.submit prompt).run (taken.map .event)).act (ending outcome) := by
    rw [law.session]
    rfl
  exact ⟨taken, outcome, heard, Dialogue.lastReplyAfter ((Dialogue.recordSession _ _).trans ends)⟩

end Turn

end ChaincodeConsole
