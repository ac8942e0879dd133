import ChaincodeConsole.Chat.Session
import ChaincodeConsole.Proofs.Chat.Calls
import ChaincodeConsole.Proofs.Chat.Parts

/-! Sessions from their history on, under every order of prompts, events, endings and clearings.
Each message carries a note of how it came in; an action notes the messages that it adds at the
end. The main statement says what every session that arises keeps to. -/
namespace ChaincodeConsole

namespace Session

def callFor (s : Session) (id name : String) : ToolCall :=
  (Part.findCall? id (s.reply.getD [])).getD (.new id name)

theorem replyKept {s : Session} {parts : List Part} (opened : s.reply = some parts) :
    s.openReply = s := by
  cases s
  cases opened
  rfl

theorem ensureCases (s : Session) (id name : String) :
    Part.findCall? id (s.reply.getD []) = some (s.callFor id name) ∧
        s.openReply.ensureCall id name = s ∨
      Part.findCall? id (s.reply.getD []) = none ∧ s.callFor id name = .new id name ∧
        s.openReply.ensureCall id name =
          { s with reply := some (s.reply.getD [] ++ [.tool (.new id name)]) } := by
  cases found : Part.findCall? id (s.reply.getD []) with
  | none =>
    refine .inr ⟨rfl, by rw [callFor, found]; rfl, ?_⟩
    simp only [ensureCall, openReply, Option.getD_some, found]
  | some call =>
    refine .inl ⟨by rw [callFor, found]; rfl, ?_⟩
    cases opened : s.reply with
    | none => simp [opened, Part.findCall?, Part.calls] at found
    | some parts =>
      rw [replyKept opened, ensureCall, found]

theorem ensuredFound (s : Session) (id name : String) :
    (s.openReply.ensureCall id name).reply.bind (Part.findCall? id) = some (s.callFor id name) := by
  rcases s.ensureCases id name with ⟨found, same⟩ | ⟨missing, fresh, added⟩
  · rw [same]
    cases opened : s.reply with
    | none => simp [opened, Part.findCall?, Part.calls] at found
    | some parts => rwa [opened] at found
  · rw [added, fresh]
    exact Part.foundFirst missing rfl

/-- An event is ignored before anything has changed or after nothing has: the call that has ended is
in the reply. Any other event puts its call where the reply has it, or at its end. -/
theorem applyToolFor (s : Session) (phase : Phase) (e : ToolEvent) :
    s.applyTool phase e =
      let call := s.callFor e.toolCallId e.name
      if e.toolCallId.isEmpty ∨ call.status.isTerminal then ⟨s, .ignored, none⟩
      else
        let call := call.advance phase e
        let active := if phase = .result then none else some call.execution
        ⟨s.putCall call active, .tool e.toolCallId phase,
          if call.status = .completed then some (call.name, call.result.getD .null) else none⟩ := by
  have found := s.ensuredFound e.toolCallId e.name
  cases unnamed : e.toolCallId.isEmpty with
  | true => simp [applyTool, unnamed]
  | false =>
    simp only [applyTool, unnamed, found, Bool.false_eq_true, if_false, false_or]
    rcases s.ensureCases e.toolCallId e.name with ⟨-, same⟩ | ⟨missing, fresh, added⟩
    · rw [same]
    · -- A new call has not ended, and takes the place that was made for it.
      have running : (s.callFor e.toolCallId e.name).status.isTerminal = false := by
        rw [fresh]
        rfl
      have named : ((s.callFor e.toolCallId e.name).advance phase e).id = e.toolCallId := by
        rw [ToolCall.advanceId, fresh]
        rfl
      have same : (ToolCall.new e.toolCallId e.name).id =
          ((s.callFor e.toolCallId e.name).advance phase e).id := named.symm
      rw [← named] at missing
      simp only [running, Bool.false_eq_true, if_false, added, putCall, Option.getD_some,
        Part.putCallAt [] missing same, Part.putCallNew missing]

inductive Action where
  | submit (content : String)
  | event (e : Event)
  | finish
  | abort
  | fail (error : String)
  | clear
  deriving DecidableEq, Repr

def act (s : Session) : Action → Session
  | .submit content => s.submit content
  | .event e => (s.apply e).session
  | .finish => s.finish
  | .abort => s.abort
  | .fail error => s.fail error
  | .clear => .empty

end Session

inductive Origin where
  | history
  | prompt
  | events
  deriving DecidableEq, Repr

def Session.Action.origin : Session.Action → Origin
  | .event _ => .events
  | _ => .prompt

structure NotedSession where
  session : Session
  origins : List Origin
  deriving DecidableEq, Repr

namespace NotedSession

def start (history : List (Role × String)) : NotedSession :=
  ⟨.ofHistory (history.map fun (role, content) => .ofText role content),
    history.map fun _ => .history⟩

def act (c : NotedSession) (a : Session.Action) : NotedSession :=
  let s := c.session.act a
  ⟨s, c.origins.take s.messages.length ++
    List.replicate (s.messages.length - c.session.messages.length) a.origin⟩

def run (c : NotedSession) (actions : List Session.Action) : NotedSession := actions.foldl act c

structure Orderly (c : NotedSession) : Prop where
  origins : c.origins.length = c.session.messages.length
  unsealed : ∀ (i : Nat) (m : Message), c.session.messages[i]? = some m →
    c.session.sealedAt i = false →
    i + 1 = c.session.messages.length ∧ m.role = .assistant ∧ m.parts ≠ []
  tidy : ∀ (i : Nat) (m : Message), c.session.messages[i]? = some m →
    c.origins[i]? = some .events → Part.Tidy m.parts
  sound : ∀ m ∈ c.session.messages, ∀ call ∈ m.calls, call.Sound
  active : ∀ e, c.session.active = some e → ∃ m call,
    c.session.lastMessage? = some m ∧
    c.session.sealedAt (c.session.messages.length - 1) = false ∧
    call ∈ m.calls ∧ call.id = e.id ∧ call.status.isTerminal = false ∧ e = call.execution
  arguments : c.session.activeArguments?.isSome = c.session.active.isSome

structure Invariant (c : NotedSession) : Prop where
  origins : c.origins.length = c.session.messages.length
  filled : ∀ parts, c.session.reply = some parts → parts ≠ []
  settledTidy : ∀ (i : Nat) (m : Message), c.session.settled[i]? = some m →
    c.origins[i]? = some .events → Part.Tidy m.parts
  replyTidy : ∀ parts, c.session.reply = some parts → Part.Tidy parts
  sound : ∀ m ∈ c.session.messages, ∀ call ∈ m.calls, call.Sound
  active : ∀ e, c.session.active = some e → ∃ parts call, c.session.reply = some parts ∧
    Part.findCall? e.id parts = some call ∧ call.status.isTerminal = false ∧ e = call.execution

theorem messagesOfReply {s : Session} {parts : List Part} (opened : s.reply = some parts) :
    s.messages = s.settled ++ [⟨.assistant, parts⟩] := by
  rw [Session.messages, opened]
  rfl

theorem messagesSettled {s : Session} (closed : s.reply = .none) : s.messages = s.settled := by
  rw [Session.messages, closed]
  simp

theorem replyGrows {before after : Session} {parts : List Part}
    (settled : after.settled = before.settled) (opened : after.reply = some parts) :
    before.messages.length ≤ after.messages.length := by
  cases h : before.reply <;>
    simp [messagesOfReply opened, messagesSettled, messagesOfReply, h, settled]

theorem invariantStart (history : List (Role × String)) : Invariant (start history) where
  origins := by simp [start, Session.ofHistory, Session.empty, Session.messages]
  filled := by simp [start, Session.ofHistory, Session.empty]
  settledTidy := by
    intro i m _ noted
    simp only [start, List.getElem?_map, Option.map_eq_some_iff] at noted
    obtain ⟨_, _, other⟩ := noted
    contradiction
  replyTidy := by simp [start, Session.ofHistory, Session.empty]
  sound := by
    intro m inside call used
    simp only [start, Session.ofHistory, Session.empty, Session.messages, Option.map_none,
      Option.toList_none, List.append_nil, List.mem_map] at inside
    obtain ⟨_, _, rfl⟩ := inside
    simp [Message.ofText, Message.calls] at used
  active := by simp [start, Session.ofHistory, Session.empty]

theorem messageTidy {c : NotedSession} (inv : Invariant c) {i : Nat} {m : Message}
    (found : c.session.messages[i]? = some m) (noted : c.origins[i]? = some .events) :
    Part.Tidy m.parts := by
  cases opened : c.session.reply with
  | none =>
    rw [messagesSettled opened] at found
    exact inv.settledTidy i m found noted
  | some parts =>
    rw [messagesOfReply opened, List.getElem?_append] at found
    split at found
    · exact inv.settledTidy i m found noted
    · rw [List.getElem?_singleton] at found
      split at found <;> cases found
      exact inv.replyTidy parts opened

theorem invariantSettled {c : NotedSession} (inv : Invariant c) {s : Session}
    (more : List Message) (settled : s.settled = c.session.messages ++ more)
    (texts : ∀ m ∈ more, m.calls = []) (closed : s.reply = none) (idle : s.active = none) :
    Invariant ⟨s, c.origins ++ more.map fun _ => .prompt⟩ where
  origins := by simp [messagesSettled closed, settled, inv.origins]
  filled := by simp [closed]
  settledTidy := by
    intro i m found noted
    rw [settled, List.getElem?_append] at found
    rw [List.getElem?_append, inv.origins] at noted
    split at found
    · rename_i old
      rw [if_pos old] at noted
      exact messageTidy inv found noted
    · rename_i new
      simp [if_neg new, List.getElem?_replicate] at noted
  replyTidy := by simp [closed]
  sound := by
    intro m inside call used
    rw [messagesSettled closed, settled, List.mem_append] at inside
    rcases inside with old | new
    · exact inv.sound m old call used
    · rw [texts m new] at used
      contradiction
  active := by simp [idle]

theorem invariantReply {c : NotedSession} (inv : Invariant c) {s : Session} {parts : List Part}
    (settled : s.settled = c.session.settled) (opened : s.reply = some parts)
    (filled : parts ≠ []) (tidy : Part.Tidy parts) (sound : ∀ call ∈ Part.calls parts, call.Sound)
    (active : ∀ e, s.active = some e → ∃ call, Part.findCall? e.id parts = some call ∧
      call.status.isTerminal = false ∧ e = call.execution) :
    Invariant ⟨s, c.origins ++
      List.replicate (s.messages.length - c.session.messages.length) .events⟩ where
  origins := by
    have grown := replyGrows settled opened
    simp only [List.length_append, List.length_replicate, inv.origins]
    omega
  filled := by
    intro other same
    cases opened.symm.trans same
    exact filled
  settledTidy := by
    intro i m found noted
    rw [settled] at found
    -- A settled message keeps its note: what is added stands behind the old notes.
    have within : i < c.origins.length := by
      have placed := (List.getElem?_eq_some_iff.mp found).1
      rw [inv.origins, Session.messages, List.length_append]
      omega
    rw [List.getElem?_append_left within] at noted
    exact inv.settledTidy i m found noted
  replyTidy := by
    intro other same
    cases opened.symm.trans same
    exact tidy
  sound := by
    intro m inside call used
    rw [messagesOfReply opened, settled, List.mem_append, List.mem_singleton] at inside
    rcases inside with old | rfl
    · exact inv.sound m (by rw [Session.messages]; exact List.mem_append_left _ old) call used
    · exact sound call used
  active := by
    intro e shown
    obtain ⟨call, found⟩ := active e shown
    exact ⟨parts, call, opened, found⟩

theorem callForCases (s : Session) (id name : String) :
    Part.findCall? id (s.reply.getD []) = some (s.callFor id name) ∨
      s.callFor id name = .new id name := by
  unfold Session.callFor
  cases Part.findCall? id (s.reply.getD []) <;> simp

theorem callForId (s : Session) (id name : String) : (s.callFor id name).id = id := by
  rcases callForCases s id name with found | fresh
  · exact (Part.foundCall found).2
  · rw [fresh]
    rfl

theorem replyCalls {c : NotedSession} (inv : Invariant c) :
    ∀ call ∈ Part.calls (c.session.reply.getD []), call.Sound := by
  intro call used
  cases opened : c.session.reply with
  | none => simp [opened] at used
  | some parts =>
    rw [opened] at used
    exact inv.sound ⟨.assistant, parts⟩ (by simp [messagesOfReply opened]) call used

theorem replyTidyOrNew {c : NotedSession} (inv : Invariant c) :
    Part.Tidy (c.session.reply.getD []) := by
  cases opened : c.session.reply with
  | none => exact Part.tidyNil
  | some parts => exact inv.replyTidy parts opened

theorem callForSound {c : NotedSession} (inv : Invariant c) (id name : String) :
    (c.session.callFor id name).Sound := by
  rcases callForCases c.session id name with found | fresh
  · exact replyCalls inv _ (Part.foundCall found).1
  · rw [fresh]
    exact ToolCall.soundNew id name

theorem actEvent {c : NotedSession} (inv : Invariant c) {e : Event} {s : Session}
    (result : (c.session.apply e).session = s)
    (grown : c.session.messages.length ≤ s.messages.length) :
    c.act (.event e) = ⟨s, c.origins ++
      List.replicate (s.messages.length - c.session.messages.length) .events⟩ := by
  simp only [act, Session.act, Session.Action.origin, result]
  rw [List.take_of_length_le (by rw [inv.origins]; exact grown)]

theorem invariantText {c : NotedSession} (inv : Invariant c) {content : String}
    (filled : content ≠ "") : Invariant (c.act (.event (.reply content))) := by
  have result : (c.session.apply (.reply content)).session = c.session.addText content := by
    simp [Session.apply, filled]
  rw [actEvent inv result (replyGrows rfl rfl)]
  refine invariantReply inv rfl rfl (Part.addTextNonempty _ _)
    (Part.tidyAddText filled (replyTidyOrNew inv)) ?_ ?_
  · rw [Part.addTextCalls]
    exact replyCalls inv
  · intro e shown
    obtain ⟨parts, call, opened, found, rest⟩ := inv.active e shown
    refine ⟨call, ?_, rest⟩
    rw [Part.findCall?, Part.addTextCalls, opened]
    exact found

theorem invariantTool {c : NotedSession} (inv : Invariant c) (phase : Phase) (e : ToolEvent) :
    Invariant (c.act (.event (.tool phase e))) := by
  have known := callForId c.session e.toolCallId e.name
  generalize about : c.session.callFor e.toolCallId e.name = call at known
  by_cases ignored : e.toolCallId.isEmpty ∨ call.status.isTerminal
  · have result : (c.session.apply (.tool phase e)).session = c.session := by
      simp only [Session.apply, Session.applyToolFor, about, if_pos ignored]
    rw [actEvent inv result (Nat.le_refl _), Nat.sub_self]
    simpa using inv
  · -- The call takes the event and is shown as active, until its result ends both.
    obtain ⟨named, running⟩ := not_or.mp ignored
    have result : (c.session.apply (.tool phase e)).session =
        c.session.putCall (call.advance phase e)
          (if phase = .result then none else some (call.advance phase e).execution) := by
      simp only [Session.apply, Session.applyToolFor, about, if_neg ignored]
    have sound : (call.advance phase e).Sound :=
      ToolCall.soundAdvance (about ▸ callForSound inv _ _) (by simpa using running) phase e
    have kept : (call.advance phase e).id = e.toolCallId := (call.advanceId phase e).trans known
    rw [actEvent inv result (replyGrows rfl rfl)]
    refine invariantReply inv rfl rfl (Part.putCallNonempty _ _)
      (Part.tidyPutCall (by simpa [kept] using named) (replyTidyOrNew inv)) ?_ ?_
    · intro other used
      rcases Part.putCallMem used with rfl | old
      · exact sound
      · exact replyCalls inv other old
    · intro shown active
      simp only [Session.putCall] at active
      split at active
      · contradiction
      · rename_i before
        cases active
        exact ⟨_, Part.putCallFound _ _,
          (call.advanceOutcome before e).2.2 (by simpa using running), rfl⟩

theorem invariantEvent {c : NotedSession} (inv : Invariant c) (e : Event) :
    Invariant (c.act (.event e)) := by
  cases e with
  | reply content =>
    by_cases empty : content = ""
    · have result : (c.session.apply (.reply content)).session = c.session := by
        simp [Session.apply, empty]
      rw [actEvent inv result (Nat.le_refl _), Nat.sub_self]
      simpa using inv
    · exact invariantText inv empty
  | tool phase e => exact invariantTool inv phase e
  | stepLimit message =>
    rw [actEvent inv (s := { c.session with active := none, stepsExhausted := true }) rfl
      (Nat.le_refl _)]
    simp only [Session.messages, Nat.sub_self, List.replicate_zero, List.append_nil]
    exact ⟨inv.origins, inv.filled, inv.settledTidy, inv.replyTidy, inv.sound, by simp⟩

theorem invariantEnd {c : NotedSession} (inv : Invariant c) {a : Session.Action} {s : Session}
    (result : c.session.act a = s) (settled : s.settled = c.session.messages)
    (closed : s.reply = none) (idle : s.active = none) : Invariant (c.act a) := by
  have law := invariantSettled inv [] (by simpa using settled) (by simp) closed idle
  simpa [act, result, messagesSettled closed, settled, ← inv.origins] using law

theorem invariantAct {c : NotedSession} (inv : Invariant c) (a : Session.Action) :
    Invariant (c.act a) := by
  cases a with
  | submit content =>
    have law := invariantSettled inv (s := c.session.submit content) [.ofText .user content] rfl
      (by simp [Message.ofText, Message.calls]) rfl rfl
    have count : (c.session.submit content).messages.length = c.origins.length + 1 := by
      rw [messagesSettled rfl]
      simp [Session.submit, inv.origins]
    simp only [act, Session.act, Session.Action.origin, count, ← inv.origins]
    rw [List.take_of_length_le (by omega), Nat.add_sub_cancel_left]
    exact law
  | event e => exact invariantEvent inv e
  | finish => exact invariantEnd inv rfl rfl rfl rfl
  | abort => exact invariantEnd inv rfl rfl rfl rfl
  | fail error => exact invariantEnd inv rfl rfl rfl rfl
  | clear =>
    have fresh : c.act .clear = start [] := by
      simp [act, Session.act, start, Session.ofHistory, Session.empty, Session.messages]
    rw [fresh]
    exact invariantStart []

theorem invariantRun {c : NotedSession} (inv : Invariant c) (actions : List Session.Action) :
    Invariant (c.run actions) := by
  induction actions generalizing c with
  | nil => exact inv
  | cons a rest ih => exact ih (invariantAct inv a)

theorem lastReply {s : Session} {parts : List Part} (opened : s.reply = some parts) :
    s.lastMessage? = some ⟨.assistant, parts⟩ ∧ s.sealedAt (s.messages.length - 1) = false ∧
      ∀ id, s.findCall? id = Part.findCall? id parts := by
  have last := messagesOfReply opened
  simp [Session.lastMessage?, Session.sealedAt, Session.findCall?, last]

theorem orderlyOfInvariant {c : NotedSession} (inv : Invariant c) : Orderly c where
  origins := inv.origins
  unsealed := by
    intro i m found unsettled
    simp only [Session.sealedAt, decide_eq_false_iff_not] at unsettled
    cases opened : c.session.reply with
    | none =>
      rw [messagesSettled opened] at found
      exact absurd (List.getElem?_eq_some_iff.mp found).1 unsettled
    | some parts =>
      rw [messagesOfReply opened, List.getElem?_append_right (by omega),
        List.getElem?_singleton] at found
      split at found <;> cases found
      refine ⟨?_, rfl, inv.filled parts opened⟩
      rw [messagesOfReply opened, List.length_append, List.length_singleton]
      omega
  tidy := fun _ _ found noted => messageTidy inv found noted
  sound := inv.sound
  active := by
    intro e shown
    obtain ⟨parts, call, opened, found, running, same⟩ := inv.active e shown
    obtain ⟨last, unsettled, -⟩ := lastReply opened
    obtain ⟨used, named⟩ := Part.foundCall found
    exact ⟨_, call, last, unsettled, used, named, running, same⟩
  arguments := by
    cases shown : c.session.active with
    | none => simp [Session.activeArguments?, shown]
    | some e =>
      obtain ⟨parts, call, opened, found, -⟩ := inv.active e shown
      simp [Session.activeArguments?, shown, (lastReply opened).2.2, found]

theorem sessionsOrderly (history : List (Role × String)) (actions : List Session.Action) :
    Orderly ((start history).run actions) :=
  orderlyOfInvariant (invariantRun (invariantStart history) actions)

end NotedSession
end ChaincodeConsole
