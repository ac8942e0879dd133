import ChaincodeConsole.Proofs.Chat.Threads

/-! A conversation with a mark on each message that says whether it is sealed. A reply goes on in
the last message, unless that is sealed or not the assistant's. A session keeps the sealed messages
apart from the open one instead, and both come to the same in every run. -/
namespace ChaincodeConsole

namespace Part

def pushText (content : String) (parts : List Part) : List Part :=
  match parts.getLast? with
  | some (.text last) => parts.dropLast ++ [.text (last ++ content)]
  | _ => parts ++ [.text content]

def ensureCall (id name : String) (parts : List Part) : List Part :=
  if (findCall? id parts).isNone then parts ++ [.tool (.new id name)] else parts

def lastCall? (id : String) (parts : List Part) : Option ToolCall := findCall? id parts.reverse

def putLast (call : ToolCall) (parts : List Part) : List Part :=
  (putCall call parts.reverse).reverse

theorem pushTextAdds (content : String) (parts : List Part) :
    pushText content parts = addText content parts := by
  rcases addTextCases content parts with ⟨front, t, split, added⟩ | ⟨other, added⟩
  · rw [added, split, pushText, List.getLast?_concat, List.dropLast_concat]
  · rw [List.getLast?_map] at other
    rw [added, pushText]
    split
    · rename_i last
      rw [last] at other
      exact absurd rfl other
    · rfl

theorem callsReverse (parts : List Part) : calls parts.reverse = (calls parts).reverse :=
  List.filterMap_reverse

theorem lastCallFound {parts : List Part} (distinct : ((calls parts).map (·.id)).Nodup)
    (id : String) : lastCall? id parts = findCall? id parts := by
  rw [lastCall?]
  cases found : findCall? id parts with
  | none =>
    refine List.find?_eq_none.mpr fun c inside => ?_
    rw [callsReverse, List.mem_reverse] at inside
    simpa using missingCall found c inside
  | some c =>
    obtain ⟨used, named⟩ := foundCall found
    cases last : findCall? id parts.reverse with
    | none =>
      refine absurd named (missingCall last c ?_)
      rwa [callsReverse, List.mem_reverse]
    | some d =>
      obtain ⟨inside, same⟩ := foundCall last
      rw [callsReverse, List.mem_reverse] at inside
      rw [List.inj_on_of_nodup_map distinct inside used (same.trans named.symm)]

theorem putLastPuts {call old : ToolCall} {parts : List Part}
    (distinct : ((calls parts).map (·.id)).Nodup) (found : findCall? call.id parts = some old) :
    putLast call parts = putCall call parts := by
  rcases putCallCases call parts with ⟨front, old, back, split, same, -, put⟩ | ⟨missing, -⟩
  · have behind : findCall? call.id back.reverse = none := by
      refine List.find?_eq_none.mpr fun c inside => ?_
      rw [callsReverse, List.mem_reverse] at inside
      rw [split, callsAppend, callsTool, List.map_append, List.map_cons,
        List.nodup_append] at distinct
      have apart := (List.nodup_cons.mp distinct.2.1).1
      rw [same] at apart
      have other : c.id ≠ call.id := fun there => apart (there ▸ List.mem_map_of_mem inside)
      simpa using other
    have reversed := putCallAt front.reverse behind same
    rw [put, putLast, split, List.reverse_append, List.reverse_cons, List.append_assoc,
      List.singleton_append, reversed]
    simp
  · rw [missing] at found
    cases found

end Part

structure MarkedMessage where
  message : Message
  isSealed : Bool
  deriving DecidableEq, Repr

structure MarkedSession where
  messages : List MarkedMessage
  loading : Bool
  active : Option ToolExecution
  stepsExhausted : Bool
  lastError : Option String
  deriving DecidableEq, Repr

namespace MarkedSession

def empty : MarkedSession := ⟨[], false, none, false, none⟩

def ofHistory (messages : List Message) : MarkedSession :=
  { empty with messages := messages.map (⟨·, true⟩) }

def onLast (f : MarkedMessage → MarkedMessage) (messages : List MarkedMessage) :
    List MarkedMessage :=
  messages.dropLast ++ (messages.getLast?.map f).toList

def sealLast (s : MarkedSession) : MarkedSession :=
  { s with messages := onLast (fun m => { m with isSealed := true }) s.messages }

def submit (s : MarkedSession) (content : String) : MarkedSession :=
  { messages := s.sealLast.messages ++ [⟨.ofText .user content, true⟩], loading := true,
    active := none, stepsExhausted := false, lastError := none }

def endTurn (s : MarkedSession) : MarkedSession :=
  { s.sealLast with loading := false, active := none }

def fail (s : MarkedSession) (error : String) : MarkedSession :=
  { s.endTurn with lastError := some error }

def openAssistant (s : MarkedSession) : MarkedSession :=
  match s.messages.getLast? with
  | some ⟨⟨.assistant, _⟩, false⟩ => s
  | _ => { s with messages := s.messages ++ [⟨⟨.assistant, []⟩, false⟩] }

def lastParts (s : MarkedSession) : List Part :=
  (s.messages.getLast?.map (·.message.parts)).getD []

def onParts (s : MarkedSession) (f : List Part → List Part) : MarkedSession :=
  { s with
    messages := onLast (fun m => { m with message.parts := f m.message.parts }) s.messages }

def applyTool (s : MarkedSession) (phase : Phase) (e : ToolEvent) :
    MarkedSession × Change × Option (String × Json) :=
  if e.toolCallId.isEmpty then (s, .ignored, none)
  else
    let s := s.openAssistant.onParts (Part.ensureCall e.toolCallId e.name)
    match Part.lastCall? e.toolCallId s.lastParts with
    | none => (s, .ignored, none)
    | some call =>
      if call.status.isTerminal then (s, .ignored, none)
      else
        let call := call.advance phase e
        let active := if phase = .result then none else some call.execution
        ({ s.onParts (Part.putLast call) with active := active }, .tool e.toolCallId phase,
          if call.status = .completed then some (call.name, call.result.getD .null) else none)

def apply (s : MarkedSession) : Event → MarkedSession × Change × Option (String × Json)
  | .reply content =>
    if content.isEmpty then (s, .ignored, none)
    else (s.openAssistant.onParts (Part.pushText content), .text content, none)
  | .tool phase e => s.applyTool phase e
  | .stepLimit message =>
    ({ s with active := none, stepsExhausted := true },
      .stepsExhausted (message.filter (!Text.blank ·)), none)

def act (s : MarkedSession) : Session.Action → MarkedSession
  | .submit content => s.submit content
  | .event e => (s.apply e).1
  | .finish => s.endTurn
  | .abort => s.endTurn
  | .fail error => s.fail error
  | .clear => empty

def run (s : MarkedSession) (actions : List Session.Action) : MarkedSession := actions.foldl act s

end MarkedSession

namespace Session

def marked (s : Session) : MarkedSession :=
  ⟨s.settled.map (⟨·, true⟩) ++ (s.reply.map (⟨⟨.assistant, ·⟩, false⟩)).toList, s.loading,
    s.active, s.stepsExhausted, s.lastError⟩

theorem markedMessages (s : Session) : s.marked.messages.map (·.message) = s.messages := by
  cases reply : s.reply <;> simp [marked, messages, reply, Function.comp_def]

theorem markedSealed (s : Session) {i : Nat} {m : MarkedMessage}
    (found : s.marked.messages[i]? = some m) : m.isSealed = s.sealedAt i := by
  rw [marked, List.getElem?_append, List.length_map] at found
  rw [sealedAt]
  split at found
  · rename_i before
    rw [List.getElem?_map] at found
    obtain ⟨_, -, rfl⟩ := Option.map_eq_some_iff.mp found
    simp [before]
  · rename_i behind
    obtain ⟨_, -, rfl⟩ := List.mem_map.mp (Option.toList_map .. ▸ List.mem_of_getElem? found)
    simp [behind]

theorem markedOpened {s : Session} {parts : List Part} (opened : s.reply = some parts) :
    s.marked.messages = s.settled.map (⟨·, true⟩) ++ [⟨⟨.assistant, parts⟩, false⟩] := by
  rw [marked, opened]
  rfl

end Session

namespace MarkedSession

theorem onLastConcat (f : MarkedMessage → MarkedMessage) (front : List MarkedMessage)
    (m : MarkedMessage) : onLast f (front ++ [m]) = front ++ [f m] := by
  simp [onLast]

theorem sealLastMarked (s : Session) : s.marked.sealLast = s.settle.marked := by
  have settled : s.settle.marked = { s.marked with messages := s.messages.map (⟨·, true⟩) } := by
    simp [Session.settle, Session.marked]
  rw [settled, sealLast]
  congr 1
  cases opened : s.reply with
  | some parts =>
    rw [Session.markedOpened opened, NotedSession.messagesOfReply opened, onLastConcat]
    simp
  | none =>
    rw [Session.marked, opened, NotedSession.messagesSettled opened]
    -- What is sealed stays so.
    induction s.settled using List.reverseRec with
    | nil => rfl
    | append_singleton front m => simp [onLast]

theorem openMarked (s : Session) : s.marked.openAssistant = s.openReply.marked := by
  cases opened : s.reply with
  | some parts =>
    rw [Session.replyKept opened, openAssistant, Session.markedOpened opened,
      List.getLast?_concat]
  | none =>
    have added : s.openReply.marked =
        { s.marked with messages := s.marked.messages ++ [⟨⟨.assistant, []⟩, false⟩] } := by
      simp [Session.openReply, Session.marked, opened]
    rw [added, openAssistant]
    split
    · rename_i last
      rw [Session.marked, opened] at last
      simp [List.getLast?_map] at last
    · rfl

theorem partsMarked {s : Session} {parts : List Part} (opened : s.reply = some parts)
    (f : List Part → List Part) :
    s.marked.onParts f = { s with reply := some (f parts) : Session }.marked := by
  rw [onParts, Session.markedOpened opened, onLastConcat]
  rfl

theorem lastPartsMarked {s : Session} {parts : List Part} (opened : s.reply = some parts) :
    s.marked.lastParts = parts := by
  rw [lastParts, Session.markedOpened opened, List.getLast?_concat]
  rfl

theorem ensuredMarked (s : Session) (id name : String) :
    s.marked.openAssistant.onParts (Part.ensureCall id name) =
      (s.openReply.ensureCall id name).marked := by
  have opened : s.openReply.reply = some (s.reply.getD []) := rfl
  rw [openMarked, partsMarked opened, Part.ensureCall, Session.ensureCall, opened,
    Option.getD_some]
  cases Part.findCall? id (s.reply.getD []) <;> rfl

theorem ensuredTidy {s : Session} (tidy : Part.Tidy (s.reply.getD [])) {id : String}
    (named : id ≠ "") (name : String) :
    Part.Tidy ((s.openReply.ensureCall id name).reply.getD []) := by
  rcases s.ensureCases id name with ⟨-, same⟩ | ⟨missing, -, added⟩
  · rwa [same]
  · have put : Part.putCall (.new id name) (s.reply.getD []) = _ := Part.putCallNew missing
    rw [added, Option.getD_some, ← put]
    exact Part.tidyPutCall named tidy

theorem toolMarked {s : Session} (tidy : Part.Tidy (s.reply.getD [])) (phase : Phase)
    (e : ToolEvent) : s.marked.applyTool phase e = ((s.applyTool phase e).session.marked,
      (s.applyTool phase e).change, (s.applyTool phase e).completed) := by
  unfold applyTool Session.applyTool
  split
  · rfl
  · rename_i named
    have tidy := ensuredTidy tidy (by simpa using named) e.name
    have found := s.ensuredFound e.toolCallId e.name
    simp only [ensuredMarked]
    generalize s.openReply.ensureCall e.toolCallId e.name = t at tidy found ⊢
    obtain ⟨parts, opened, found⟩ := Option.bind_eq_some_iff.mp found
    rw [opened, Option.getD_some] at tidy
    rw [lastPartsMarked opened, Part.lastCallFound tidy.distinct, opened, Option.bind_some, found]
    dsimp only
    split
    · rfl
    · have known : ((s.callFor e.toolCallId e.name).advance phase e).id = e.toolCallId :=
        s.advancedId phase e
      rw [← known] at found
      rw [partsMarked opened, Part.putLastPuts tidy.distinct found]
      simp only [Session.putCall, opened, Option.getD_some]
      rfl

theorem eventMarked {s : Session} (tidy : Part.Tidy (s.reply.getD [])) (e : Event) :
    s.marked.apply e =
      ((s.apply e).session.marked, (s.apply e).change, (s.apply e).completed) := by
  cases e with
  | reply content =>
    simp only [apply, Session.apply]
    split
    · rfl
    · have opened : s.openReply.reply = some (s.reply.getD []) := rfl
      rw [openMarked, partsMarked opened, Part.pushTextAdds]
      rfl
  | tool phase e => exact toolMarked tidy phase e
  | stepLimit message => rfl

theorem actMarked {s : Session} (tidy : Part.Tidy (s.reply.getD [])) (a : Session.Action) :
    s.marked.act a = (s.act a).marked := by
  have ended : s.marked.endTurn = s.endTurn.marked := by
    rw [endTurn, sealLastMarked]
    rfl
  cases a with
  | submit content =>
    rw [act, submit, sealLastMarked]
    simp [Session.act, Session.submit, Session.settle, Session.marked]
  | event e => exact congrArg Prod.fst (eventMarked tidy e)
  | finish | abort => exact ended
  | fail error => rw [act, fail, ended]; rfl
  | clear => rfl

theorem runMarked {s : Session} (tidy : Part.Tidy (s.reply.getD []))
    (actions : List Session.Action) : s.marked.run actions = (s.run actions).marked := by
  induction actions generalizing s with
  | nil => rfl
  | cons a rest ih =>
    have next := ih (Session.actTidy tidy a)
    rw [← actMarked tidy a] at next
    exact next

/-- Where the marks are kept, the messages are those of the session, those are sealed that it has
settled, and each event changes the same and tells the same. -/
theorem marksKept (history : List Message) (actions : List Session.Action) :
    let s := (Session.ofHistory history).run actions
    let marked := (ofHistory history).run actions
    marked.messages.map (·.message) = s.messages ∧
      (∀ (i : Nat) (m : MarkedMessage), marked.messages[i]? = some m →
        m.isSealed = s.sealedAt i) ∧
      marked.loading = s.loading ∧ marked.active = s.active ∧
      marked.stepsExhausted = s.stepsExhausted ∧ marked.lastError = s.lastError ∧
      ∀ e, (marked.apply e).2 = ((s.apply e).change, (s.apply e).completed) := by
  intro s marked
  have begun : Part.Tidy ((Session.ofHistory history).reply.getD []) := Part.tidyNil
  have start : ofHistory history = (Session.ofHistory history).marked := by
    simp [ofHistory, empty, Session.ofHistory, Session.empty, Session.marked]
  have same : marked = s.marked := by
    rw [← runMarked begun actions, ← start]
  rw [same]
  refine ⟨s.markedMessages, fun i m found => s.markedSealed found, rfl, rfl, rfl, rfl, fun e => ?_⟩
  rw [eventMarked (Session.runTidy begun actions)]

end MarkedSession
end ChaincodeConsole
