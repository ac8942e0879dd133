import ChaincodeConsole.Json.Shape

/-!
Conversations as the server keeps them. What it leaves out is empty; an id may be any value and
is taken as text.
-/
namespace ChaincodeConsole

structure StoredMessage where
  role : String
  content : String
  deriving DecidableEq, Repr

structure Conversation where
  id : String
  title : Option String
  createdAt : Option String
  updatedAt : Option String
  messages : List StoredMessage
  deriving DecidableEq, Repr

namespace StoredMessage

def empty : StoredMessage := ⟨"", ""⟩

def shape : Json.RecordShape Json StoredMessage where
  name := "ConversationMessage"
  fields := ["role", "content"]
  aliases := []
  put m field value :=
    match field with
    | "role" => value.toString?.map fun s => { m with role := s }
    | "content" => value.toString?.map fun s => { m with content := s }
    | _ => .ok m
  required _ := false

def ofJson (j : Json) : Json.Shaped StoredMessage := shape.read empty j

def toJson (m : StoredMessage) : Json :=
  .object [("role", .string m.role), ("content", .string m.content)]

end StoredMessage

namespace Conversation

def empty : Conversation := ⟨"", none, none, none, []⟩

def idText : Json → String
  | .string s => s
  | .null => ""
  | j => j.text

def shape : Json.RecordShape Json Conversation where
  name := "Conversation"
  fields := ["id", "title", "createdAt", "updatedAt", "messages"]
  aliases := []
  put c field value :=
    match field with
    | "id" => .ok { c with id := idText value }
    | "title" => (Json.optional Json.toString? value).map fun s => { c with title := s }
    | "createdAt" => (Json.optional Json.toString? value).map fun s => { c with createdAt := s }
    | "updatedAt" => (Json.optional Json.toString? value).map fun s => { c with updatedAt := s }
    | "messages" =>
      (Json.toList? StoredMessage.ofJson value).map fun ms => { c with messages := ms }
    | _ => .ok c
  required _ := false

def ofJson (j : Json) : Json.Shaped Conversation := shape.read empty j

def toJson (c : Conversation) : Json :=
  .object [("id", .string c.id), ("title", Json.ofString? c.title),
    ("createdAt", Json.ofString? c.createdAt), ("updatedAt", Json.ofString? c.updatedAt),
    ("messages", .array (c.messages.map StoredMessage.toJson))]

def lastTouched (c : Conversation) : String := (c.updatedAt <|> c.createdAt).getD "-"

end Conversation
end ChaincodeConsole
