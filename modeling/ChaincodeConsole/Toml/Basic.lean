/-!
TOML values. Of floating numbers and dates only their kind is kept.
-/
namespace ChaincodeConsole.Toml

inductive Value where
  | string (s : String)
  | integer (n : Int)
  | floating
  | bool (b : Bool)
  | datetime
  | array (items : List Value)
  | table (entries : List (String × Value))
  deriving Repr, Inhabited

/-- A table under construction. An implicit one came with the path of another table; a dotted
one with the key of an entry. Values, inline tables among them, are complete. -/
inductive Node where
  | value (v : Value)
  | table (implicit dotted : Bool) (entries : List (String × Node))
  | tables (items : List (List (String × Node)))
  deriving Repr, Inhabited

abbrev Entries := List (String × Node)

namespace Node

mutual
def finish : Node → Value
  | .value v => v
  | .table _ _ entries => .table (finishEntries entries)
  | .tables items => .array (finishTables items)

def finishEntries : List (String × Node) → List (String × Value)
  | [] => []
  | (k, n) :: r => (k, finish n) :: finishEntries r

def finishTables : List (List (String × Node)) → List Value
  | [] => []
  | t :: r => .table (finishEntries t) :: finishTables r
end

end Node

namespace Entries

def find? (key : String) : Entries → Option Node
  | [] => none
  | (k, n) :: r => if k = key then some n else find? key r

def put (key : String) (node : Node) : Entries → Entries
  | [] => [(key, node)]
  | (k, n) :: r => if k = key then (k, node) :: r else (k, n) :: put key node r

def onLast (f : Entries → Option Entries) : List Entries → Option (List Entries)
  | [] => none
  | [t] => (f t).map ([·])
  | t :: r => (onLast f r).map (t :: ·)

/-- Changes the table at the end of a path, creating those that are missing; of several tables
under one name the last is meant. Along a dotted key no explicit table may be entered. `f` is
also told whether the table it gets is a dotted one. -/
def atPath (dotted : Bool) (f : Bool → Entries → Option Entries) :
    List String → Bool → Entries → Option Entries
  | [], isDotted, t => f isDotted t
  | key :: path, _, t =>
    match find? key t with
    | none => (atPath dotted f path dotted []).map fun sub => put key (.table true dotted sub) t
    | some (.value _) => none
    | some (.tables items) =>
      (onLast (atPath dotted f path false) items).map fun items => put key (.tables items) t
    | some (.table implicit isDotted sub) =>
      if dotted && !implicit then none
      else
        (atPath dotted f path isDotted sub).map fun sub =>
          put key (.table implicit isDotted sub) t

def addEntry (path : List String) (key : String) (v : Value) (t : Entries) : Option Entries :=
  atPath true (fun isDotted t =>
    if isDotted == path.isEmpty then none
    else
      match find? key t with
      | none => some (put key (.value v) t)
      | some _ => none) path false t

def openTable (path : List String) (key : String) (t : Entries) : Option Entries :=
  atPath false (fun _ t =>
    match find? key t with
    | none => some (put key (.table false false []) t)
    | some (.table true false sub) => some (put key (.table false false sub) t)
    | some _ => none) path false t

def openItem (path : List String) (key : String) (t : Entries) : Option Entries :=
  atPath false (fun _ t =>
    match find? key t with
    | none => some (put key (.tables [[]]) t)
    | some (.tables items) => some (put key (.tables (items ++ [[]])) t)
    | some _ => none) path false t

end Entries
end ChaincodeConsole.Toml
