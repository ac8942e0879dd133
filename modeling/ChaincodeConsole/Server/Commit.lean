import ChaincodeConsole.Json.Shape
import ChaincodeConsole.Text.Line

/-!
Commits of a project. The server may name the hash and the time in several ways.
-/
namespace ChaincodeConsole

structure Commit where
  hash : String
  message : String
  author : Option String
  timestamp : Option String
  files : List String
  deriving DecidableEq, Repr

namespace Commit

def empty : Commit := ⟨"", "", none, none, []⟩

def shape : Json.RecordShape Json Commit where
  name := "Commit"
  fields := ["hash", "message", "author", "timestamp", "files"]
  aliases := [("sha", "hash"), ("id", "hash"), ("date", "timestamp"), ("createdAt", "timestamp")]
  put c field value :=
    match field with
    | "hash" => value.toString?.map fun s => { c with hash := s }
    | "message" => value.toString?.map fun s => { c with message := s }
    | "author" => (Json.optional Json.toString? value).map fun s => { c with author := s }
    | "timestamp" => (Json.optional Json.toString? value).map fun s => { c with timestamp := s }
    | "files" => (Json.toList? Json.toString? value).map fun fs => { c with files := fs }
    | _ => .ok c
  required _ := false

def ofJson (j : Json) : Json.Shaped Commit := shape.read empty j

def toJson (c : Commit) : Json :=
  .object [("hash", .string c.hash), ("message", .string c.message),
    ("author", Json.ofString? c.author), ("timestamp", Json.ofString? c.timestamp),
    ("files", .array (c.files.map .string))]

def takeBytes? : Nat → List Char → Option (List Char)
  | 0, _ => some []
  | _ + 1, [] => none
  | n, c :: r => if c.utf8Size ≤ n then (takeBytes? (n - c.utf8Size) r).map (c :: ·) else none

/-- The first seven bytes of the hash, all of it where a character would be cut. -/
def shortHash (c : Commit) : String :=
  match takeBytes? 7 c.hash.toList with
  | some cs => String.ofList cs
  | none => c.hash

def subject (c : Commit) : String := Text.firstLine c.message

end Commit
end ChaincodeConsole
