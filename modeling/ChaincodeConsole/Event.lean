import ChaincodeConsole.Json.Reader
import ChaincodeConsole.Json.Shape

/-!
The events of a chat stream. One payload is a JSON object that names its type: a piece of the
reply's text, a step in the life of a tool call, or the end of the step budget. What is read
leniently is kept as text: `arguments` and `error` may be any value.
-/
namespace ChaincodeConsole

inductive Phase where
  | start
  | update
  | execute
  | result
  deriving DecidableEq, Repr

def Phase.name : Phase → String
  | .start => "start"
  | .update => "update"
  | .execute => "execute"
  | .result => "result"

/-- What every tool event carries: `arguments` is a fragment of the text of the call's
arguments, `args` their value as a whole. -/
structure ToolEvent where
  toolCallId : String
  name : String
  arguments : Option String
  args : Option Json
  result : Option Json
  error : Option String
  deriving DecidableEq, Repr

namespace ToolEvent

def ofId (id : String) : ToolEvent := ⟨id, "", none, none, none, none⟩

def lenientText : Json → Option String
  | .null => none
  | .string s => some s
  | j => some j.text

def present : Json → Option Json
  | .null => none
  | j => some j

def put (e : ToolEvent) (field : String) (value : Json) : Json.Shaped ToolEvent :=
  match field with
  | "toolCallID" => value.toString?.map fun s => { e with toolCallId := s }
  | "name" => value.toString?.map fun s => { e with name := s }
  | "arguments" => .ok { e with arguments := lenientText value }
  | "args" => .ok { e with args := present value }
  | "result" => .ok { e with result := present value }
  | "error" => .ok { e with error := lenientText value }
  | _ => .ok e

def shape : Json.RecordShape Json ToolEvent where
  name := "ToolEvent"
  fields := ["toolCallID", "name", "arguments", "args", "result", "error"]
  aliases := []
  put := put
  required := (· == "toolCallID")

def members (e : ToolEvent) : List (String × Json) :=
  ("toolCallID", .string e.toolCallId) ::
    ((if e.name.isEmpty then [] else [("name", .string e.name)]) ++
      (e.arguments.map fun a => ("arguments", Json.string a)).toList ++
      (e.args.map fun a => ("args", a)).toList ++
      (e.result.map fun r => ("result", r)).toList ++
      (e.error.map fun m => ("error", Json.string m)).toList)

end ToolEvent

inductive Event where
  | reply (content : String)
  | tool (phase : Phase) (event : ToolEvent)
  | stepLimit (message : Option String)
  deriving DecidableEq, Repr

namespace Event

inductive DecodeError where
  | notJson (fault : Json.Located)
  | misshapen (mismatch : Json.Mismatch)
  | unknownType (kind : String)
  deriving DecidableEq, Repr

def DecodeError.message : DecodeError → String
  | .notJson e => "malformed event: " ++ e.message
  | .misshapen e => "malformed event: " ++ e.message
  | .unknownType kind => "unknown event type '" ++ kind ++ "'"

def replyShape : Json.RecordShape Json String where
  name := "reply"
  fields := ["content"]
  aliases := []
  put := fun _ _ value => value.toString?
  required := fun _ => false

def stepLimitShape : Json.RecordShape Json (Option String) where
  name := "stepLimit"
  fields := ["message"]
  aliases := []
  put := fun _ _ value => Json.optional Json.toString? value
  required := fun _ => false

def readTool (phase : Phase) (value : Json) : Json.Shaped Event :=
  (ToolEvent.shape.read (.ofId "") value).map (.tool phase)

def reader? (kind : String) : Option (Json → Json.Shaped Event) :=
  match kind with
  | "llm" => some fun value => (replyShape.read "" value).map .reply
  | "tool_start" => some (readTool .start)
  | "tool_update" => some (readTool .update)
  | "tool_execute" => some (readTool .execute)
  | "tool_result" => some (readTool .result)
  | "max_steps_reached" => some fun value => (stepLimitShape.read none value).map .stepLimit
  | _ => none

def kindOf (value : Json) : String := ((value.get? "type").bind Json.asString?).getD ""

def ofJson (value : Json) : Except DecodeError Event :=
  match reader? (kindOf value) with
  | none => .error (.unknownType (kindOf value))
  | some read => (read value).mapError .misshapen

def decode (payload : String) : Except DecodeError Event :=
  match Json.ofText payload with
  | .ok value => ofJson value
  | .error e => .error (.notJson e)

def typeName : Event → String
  | .reply _ => "llm"
  | .tool .start _ => "tool_start"
  | .tool .update _ => "tool_update"
  | .tool .execute _ => "tool_execute"
  | .tool .result _ => "tool_result"
  | .stepLimit _ => "max_steps_reached"

def members : Event → List (String × Json)
  | .reply content => [("content", .string content)]
  | .tool _ e => e.members
  | .stepLimit message => (message.map fun m => ("message", Json.string m)).toList

def toJson (e : Event) : Json := .object (("type", .string e.typeName) :: e.members)

def phase? : Event → Option Phase
  | .tool phase _ => some phase
  | _ => none

def isTool : Event → Bool
  | .tool _ _ => true
  | _ => false

end Event
end ChaincodeConsole
