import ChaincodeConsole.Chat.Message
import ChaincodeConsole.Json.Outline
import ChaincodeConsole.Time.Timestamp
import ChaincodeConsole.Uuid

/-!
Records of finished messages. Of a tool call only its name and outcome are kept. A record is
written as an object on one line; empty parts are left out.
-/
namespace ChaincodeConsole

structure ToolSummary where
  name : String
  status : ToolStatus
  error : Option String
  deriving DecidableEq, Repr

structure TurnRecord where
  session : Uuid
  role : Role
  content : String
  tools : List ToolSummary
  timestamp : Timestamp
  deriving DecidableEq, Repr

namespace ToolSummary

def ofCall (c : ToolCall) : ToolSummary := ⟨c.name, c.status, c.error⟩

def put (t : ToolSummary) (field : String) (value : Json) : Json.Shaped ToolSummary :=
  match field with
  | "name" => value.toString?.map fun s => { t with name := s }
  | "status" => (Json.toVariant? ToolStatus.named value).map fun s => { t with status := s }
  | "error" => (Json.optional Json.toString? value).map fun e => { t with error := e }
  | _ => .ok t

def shapeOf (value : ν → Json.Shaped Json) : Json.RecordShape ν ToolSummary where
  name := "ToolSummary"
  fields := ["name", "status", "error"]
  aliases := []
  put t field v := (value v).bind (put t field)
  required := (· != "error")

def empty : ToolSummary := ⟨"", .started, none⟩

def ofJson (j : Json) : Json.Shaped ToolSummary := (shapeOf .ok).read empty j

def toJson (t : ToolSummary) : Json :=
  .object ([("name", .string t.name), ("status", .string t.status.name)] ++
    (t.error.map fun e => ("error", Json.string e)).toList)

end ToolSummary

namespace TurnRecord

def ofMessage (session : Uuid) (now : Timestamp) (m : Message) : TurnRecord :=
  ⟨session, m.role, m.text, m.calls.map .ofCall, now⟩

def isBlank (r : TurnRecord) : Bool := Text.blank r.content && r.tools.isEmpty

def toJson (r : TurnRecord) : Json :=
  .object ([("session", .string r.session.text), ("role", .string r.role.name),
      ("content", .string r.content)] ++
    (if r.tools.isEmpty then [] else [("tools", .array (r.tools.map ToolSummary.toJson))]) ++
    [("timestamp", .string r.timestamp.text)])

def line (r : TurnRecord) : String := r.toJson.text

def readSession (j : Json) : Json.Shaped Uuid :=
  match j with
  | .string s => (Uuid.ofText s).mapError fun f => .format f.message
  | j => .error (.wrongType j "a formatted UUID string")

def readTimestamp (j : Json) : Json.Shaped Timestamp :=
  match j with
  | .string s => (Timestamp.ofText s).mapError fun f => .format f.message
  | j => .error (.wrongType j "an RFC 3339 formatted date and time string")

def put (r : TurnRecord) (field : String) (value : Json) : Json.Shaped TurnRecord :=
  match field with
  | "session" => (readSession value).map fun s => { r with session := s }
  | "role" => (Json.toVariant? Role.named value).map fun x => { r with role := x }
  | "content" => value.toString?.map fun s => { r with content := s }
  | "timestamp" => (readTimestamp value).map fun t => { r with timestamp := t }
  | _ => .ok r

def shapeOf (value : ν → Json.Shaped Json) (tools : ν → Json.Shaped (List ToolSummary)) :
    Json.RecordShape ν TurnRecord where
  name := "TurnRecord"
  fields := ["session", "role", "content", "tools", "timestamp"]
  aliases := []
  put r field v :=
    if field = "tools" then (tools v).map fun ts => { r with tools := ts }
    else (value v).bind (put r field)
  required := (· != "tools")

def empty : TurnRecord := ⟨.zero, .user, "", [], ⟨⟨1970, 1, 1⟩, 0, 0, 0⟩⟩

def ofJson (j : Json) : Json.Shaped TurnRecord :=
  (shapeOf .ok (Json.toList? ToolSummary.ofJson)).read empty j

def plainPart (cs : List Char) : Json.Shaped Json :=
  match Json.Outline.plainValue? cs with
  | some j => .ok j
  | none => .error (.format "no plain value")

def ofOutline (shape : Json.RecordShape (List Char) δ) (draft : δ) (cs : List Char) :
    Json.Shaped δ :=
  match Json.Outline.ofChars? cs with
  | some (.object members) => shape.ofMembers draft members
  | some (.array items) => shape.ofItems draft items
  | _ => .error (.format "no record")

def toolsOfText (cs : List Char) : Json.Shaped (List ToolSummary) :=
  match Json.Outline.ofChars? cs with
  | some (.array items) => items.mapM (ofOutline (ToolSummary.shapeOf plainPart) .empty)
  | _ => .error (.format "no list")

/-- The record that a text writes. A field may stand there once; what other members hold is not
looked at. -/
def ofText? (s : String) : Option TurnRecord :=
  (ofOutline (shapeOf plainPart toolsOfText) empty s.toList).toOption

end TurnRecord
end ChaincodeConsole
