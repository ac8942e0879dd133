import ChaincodeConsole.Chat.Message

/-!
A conversation and the events that change it. Settled messages are never touched again; the
reply being received is open until the turn ends, by finishing, being stopped or failing.
An event opens the reply if there is none. The tool that ran last is shown as active until its
result comes or the turn ends.
-/
namespace ChaincodeConsole

inductive Change where
  | text (delta : String)
  | tool (id : String) (phase : Phase)
  | stepsExhausted (message : Option String)
  | ignored
  deriving DecidableEq, Repr

structure Session where
  settled : List Message
  reply : Option (List Part)
  loading : Bool
  active : Option ToolExecution
  stepsExhausted : Bool
  lastError : Option String
  deriving DecidableEq, Repr

structure Applied where
  session : Session
  change : Change
  completed : Option (String × Json)
  deriving DecidableEq, Repr

namespace Session

def empty : Session := ⟨[], none, false, none, false, none⟩

def ofHistory (messages : List Message) : Session := { empty with settled := messages }

def messages (s : Session) : List Message :=
  s.settled ++ (s.reply.map (⟨.assistant, ·⟩)).toList

def lastMessage? (s : Session) : Option Message := s.messages.getLast?

def sealedAt (s : Session) (place : Nat) : Bool := place < s.settled.length

def findCall? (s : Session) (id : String) : Option ToolCall :=
  match s.messages.reverse.find? (·.role == .assistant) with
  | some m => Part.findCall? id m.parts
  | none => none

def activeArguments? (s : Session) : Option String :=
  s.active.bind fun a => (s.findCall? a.id).map (·.arguments)

def settle (s : Session) : Session := { s with settled := s.messages, reply := none }

def submit (s : Session) (content : String) : Session :=
  { settled := s.messages ++ [.ofText .user content], reply := none, loading := true,
    active := none, stepsExhausted := false, lastError := none }

def history (s : Session) : List HistoryEntry := s.messages.filterMap Message.history?

def endTurn (s : Session) : Session := { s.settle with loading := false, active := none }

def finish (s : Session) : Session := s.endTurn

def abort (s : Session) : Session := s.endTurn

def fail (s : Session) (error : String) : Session := { s.endTurn with lastError := some error }

def addText (s : Session) (content : String) : Session :=
  { s with reply := some (Part.addText content (s.reply.getD [])) }

def openReply (s : Session) : Session := { s with reply := some (s.reply.getD []) }

def ensureCall (s : Session) (id name : String) : Session :=
  match Part.findCall? id (s.reply.getD []) with
  | some _ => s
  | none => { s with reply := some (s.reply.getD [] ++ [.tool (.new id name)]) }

def putCall (s : Session) (call : ToolCall) (active : Option ToolExecution) : Session :=
  { s with reply := some (Part.putCall call (s.reply.getD [])), active := active }

def applyTool (s : Session) (phase : Phase) (e : ToolEvent) : Applied :=
  if e.toolCallId.isEmpty then ⟨s, .ignored, none⟩
  else
    let s := s.openReply.ensureCall e.toolCallId e.name
    match s.reply.bind (Part.findCall? e.toolCallId) with
    | none => ⟨s, .ignored, none⟩
    | some call =>
      if call.status.isTerminal then ⟨s, .ignored, none⟩
      else
        let call := call.advance phase e
        let active := if phase = .result then none else some call.execution
        ⟨s.putCall call active, .tool e.toolCallId phase,
          if call.status = .completed then some (call.name, call.result.getD .null) else none⟩

def apply (s : Session) : Event → Applied
  | .reply content =>
    if content.isEmpty then ⟨s, .ignored, none⟩ else ⟨s.addText content, .text content, none⟩
  | .tool phase e => s.applyTool phase e
  | .stepLimit message =>
    ⟨{ s with active := none, stepsExhausted := true },
      .stepsExhausted (message.filter (!Text.blank ·)), none⟩

end Session
end ChaincodeConsole
