import ChaincodeConsole.Json.Shape

/-!
Files of a project, as entries of a listing and with their content.
-/
namespace ChaincodeConsole

structure FileEntry where
  name : String
  path : String
  isDir : Bool
  size : Option Nat
  deriving DecidableEq, Repr

structure FileContent where
  path : String
  content : String
  deriving DecidableEq, Repr

namespace FileEntry

def empty : FileEntry := ⟨"", "", false, none⟩

def shape : Json.RecordShape Json FileEntry where
  name := "FileEntry"
  fields := ["name", "path", "isDir", "size"]
  aliases := [("is_dir", "isDir"), ("directory", "isDir")]
  put e field value :=
    match field with
    | "name" => value.toString?.map fun s => { e with name := s }
    | "path" => value.toString?.map fun s => { e with path := s }
    | "isDir" => value.toBool?.map fun b => { e with isDir := b }
    | "size" => (Json.optional Json.toNat? value).map fun n => { e with size := n }
    | _ => .ok e
  required _ := false

def ofJson (j : Json) : Json.Shaped FileEntry := shape.read empty j

def toJson (e : FileEntry) : Json :=
  .object [("name", .string e.name), ("path", .string e.path), ("isDir", .bool e.isDir),
    ("size", (e.size.map fun n => Json.number (.natural n)).getD .null)]

def label (e : FileEntry) : String :=
  (if e.path.isEmpty then e.name else e.path) ++ (if e.isDir then "/" else "")

end FileEntry

namespace FileContent

def empty : FileContent := ⟨"", ""⟩

def shape : Json.RecordShape Json FileContent where
  name := "FileContent"
  fields := ["path", "content"]
  aliases := []
  put f field value :=
    match field with
    | "path" => value.toString?.map fun s => { f with path := s }
    | "content" => value.toString?.map fun s => { f with content := s }
    | _ => .ok f
  required _ := false

def ofJson (j : Json) : Json.Shaped FileContent := shape.read empty j

def toJson (f : FileContent) : Json :=
  .object [("path", .string f.path), ("content", .string f.content)]

end FileContent
end ChaincodeConsole
