import ChaincodeConsole.Chat.ToolCall

/-!
Messages of a conversation. A message is a list of parts, pieces of text and tool calls.
-/
namespace ChaincodeConsole

inductive Role where
  | user
  | assistant
  deriving DecidableEq, Repr

namespace Role

def name : Role → String
  | .user => "user"
  | .assistant => "assistant"

def named : List (String × Role) := [("user", .user), ("assistant", .assistant)]

end Role

inductive Part where
  | text (content : String)
  | tool (call : ToolCall)
  deriving DecidableEq, Repr

namespace Part

def call? : Part → Option ToolCall
  | .tool call => some call
  | .text _ => none

def text? : Part → Option String
  | .text content => some content
  | .tool _ => none

def joinedText (parts : List Part) : String := String.join (parts.filterMap text?)

def calls (parts : List Part) : List ToolCall := parts.filterMap call?

def findCall? (id : String) (parts : List Part) : Option ToolCall :=
  (calls parts).find? (·.id == id)

def putCall (call : ToolCall) : List Part → List Part
  | [] => [.tool call]
  | .tool c :: rest => if c.id = call.id then .tool call :: rest else .tool c :: putCall call rest
  | .text t :: rest => .text t :: putCall call rest

def addText (content : String) : List Part → List Part
  | [] => [.text content]
  | [.text t] => [.text (t ++ content)]
  | p :: rest => p :: addText content rest

def toJson : Part → Json
  | .text content => .object [("type", .string "text"), ("content", .string content)]
  | .tool call => .object (("type", .string "tool") :: call.members)

end Part

structure Message where
  role : Role
  parts : List Part
  deriving DecidableEq, Repr

namespace Message

def ofText (role : Role) (content : String) : Message := ⟨role, [.text content]⟩

def text (m : Message) : String := Part.joinedText m.parts

def calls (m : Message) : List ToolCall := Part.calls m.parts

def toJson (m : Message) : Json :=
  .object [("role", .string m.role.name), ("parts", .array (m.parts.map Part.toJson))]

end Message

structure HistoryEntry where
  role : Role
  content : String
  deriving DecidableEq, Repr

namespace HistoryEntry

def shape : Json.RecordShape Json HistoryEntry where
  name := "HistoryMessage"
  fields := ["role", "content"]
  aliases := []
  put e field value :=
    match field with
    | "role" => (Json.toVariant? Role.named value).map fun r => { e with role := r }
    | "content" => value.toString?.map fun s => { e with content := s }
    | _ => .ok e
  required _ := true

def ofJson (j : Json) : Json.Shaped HistoryEntry := shape.read ⟨.user, ""⟩ j

def toJson (e : HistoryEntry) : Json :=
  .object [("role", .string e.role.name), ("content", .string e.content)]

end HistoryEntry

def Message.history? (m : Message) : Option HistoryEntry :=
  if Text.blank m.text then none else some ⟨m.role, m.text⟩

end ChaincodeConsole
