import ChaincodeConsole.Json.Printer
import ChaincodeConsole.Text.Quoted

/-!
Reading a JSON value as something of a fixed shape. A record is read from an object, whose
members are taken in the order they stand in, unknown ones left out; or from an array, whose
items are the fields in the order of declaration. The first value that does not fit decides.
-/
namespace ChaincodeConsole.Json

inductive Mismatch where
  | wrongType (found : Json) (expected : String)
  | wrongValue (found expected : String)
  | missingField (name : String)
  | duplicateField (name : String)
  | unknownVariant (name : String) (known : List String)
  | tooShort (length : Nat) (expected : String)
  | tooLong (length : Nat)
  | format (message : String)
  deriving DecidableEq, Repr

def named : Json → String
  | .null => "null"
  | .bool b => "boolean `" ++ (if b then "true" else "false") ++ "`"
  | .number (.natural n) => "integer `" ++ String.ofList (Number.natural n).chars ++ "`"
  | .number (.negative n) => "integer `" ++ String.ofList (Number.negative n).chars ++ "`"
  | .number (.floating x) =>
    "floating point `" ++ String.ofList (Number.floating x).chars ++ "`"
  | .string s => "string " ++ Text.quote s
  | .array _ => "sequence"
  | .object _ => "map"

def ticked (s : String) : String := "`" ++ s ++ "`"

def choices : List String → String
  | [] => "there are no variants"
  | [a] => "expected " ++ ticked a
  | [a, b] => "expected " ++ ticked a ++ " or " ++ ticked b
  | all => "expected one of " ++ String.intercalate ", " (all.map ticked)

def Mismatch.message : Mismatch → String
  | .wrongType found expected => "invalid type: " ++ named found ++ ", expected " ++ expected
  | .wrongValue found expected => "invalid value: " ++ found ++ ", expected " ++ expected
  | .missingField name => "missing field " ++ ticked name
  | .duplicateField name => "duplicate field " ++ ticked name
  | .unknownVariant name known => "unknown variant " ++ ticked name ++ ", " ++ choices known
  | .tooShort length expected => "invalid length " ++ toString length ++ ", expected " ++ expected
  | .tooLong length =>
    "invalid length " ++ toString length ++ ", expected fewer elements in array"
  | .format message => message

abbrev Shaped := Except Mismatch

def toString? : Json → Shaped String
  | .string s => .ok s
  | j => .error (.wrongType j "a string")

def toBool? : Json → Shaped Bool
  | .bool b => .ok b
  | j => .error (.wrongType j "a boolean")

def toNat? : Json → Shaped Nat
  | .number (.natural n) => .ok n
  | .number (.negative n) =>
    .error (.wrongValue ("integer `" ++ String.ofList (Number.negative n).chars ++ "`") "u64")
  | j => .error (.wrongType j "u64")

def optional (read : Json → Shaped α) : Json → Shaped (Option α)
  | .null => .ok none
  | j => (read j).map some

def toList? (read : Json → Shaped α) : Json → Shaped (List α)
  | .array items => items.mapM read
  | j => .error (.wrongType j "a sequence")

/-- A choice of names: a string, or an object with the name as its one key and nothing in it. -/
def toVariant? (table : List (String × α)) (j : Json) : Shaped α :=
  let find (name : String) : Shaped α :=
    match table.find? (·.1 == name) with
    | some (_, a) => .ok a
    | none => .error (.unknownVariant name (table.map (·.1)))
  match j with
  | .string name => find name
  | .object [(name, value)] => do
    let a ← find name
    match value with
    | .null => .ok a
    | other => .error (.wrongType other "unit")
  | .object _ => .error (.wrongValue "map" "map with a single key")
  | other => .error (.wrongType other "string or map")

/-- How a record is read: its fields by their names in order of declaration, other names of
theirs, and what a field's value does to the draft. Values are JSON values or, where the text
itself decides, the texts of such. -/
structure RecordShape (ν δ : Type) where
  name : String
  fields : List String
  aliases : List (String × String)
  put : δ → String → ν → Shaped δ
  required : String → Bool

namespace RecordShape

def field? (s : RecordShape ν δ) (key : String) : Option String :=
  if s.fields.contains key then some key else (s.aliases.find? (·.1 == key)).map (·.2)

def putMembers (s : RecordShape ν δ) (draft : δ) (seen : List String) :
    List (String × ν) → Shaped (δ × List String)
  | [] => .ok (draft, seen)
  | (key, value) :: rest =>
    match s.field? key with
    | none => putMembers s draft seen rest
    | some field =>
      if seen.contains field then .error (.duplicateField field)
      else
        match s.put draft field value with
        | .ok draft => putMembers s draft (field :: seen) rest
        | .error e => .error e

def described (s : RecordShape ν δ) : String :=
  "struct " ++ s.name ++ " with " ++ toString s.fields.length ++ " element" ++
    (if s.fields.length = 1 then "" else "s")

def putItems (s : RecordShape ν δ) (draft : δ) (place : Nat) :
    List String → List ν → Shaped (δ × List ν)
  | [], rest => .ok (draft, rest)
  | field :: fields, [] =>
    if s.required field then .error (.tooShort place s.described)
    else putItems s draft (place + 1) fields []
  | field :: fields, item :: rest =>
    match s.put draft field item with
    | .ok draft => putItems s draft (place + 1) fields rest
    | .error e => .error e

def ofMembers (s : RecordShape ν δ) (draft : δ) (members : List (String × ν)) : Shaped δ := do
  let (draft, seen) ← s.putMembers draft [] members
  match s.fields.find? fun f => s.required f && !seen.contains f with
  | some f => .error (.missingField f)
  | none => .ok draft

def ofItems (s : RecordShape ν δ) (draft : δ) (items : List ν) : Shaped δ := do
  let (draft, rest) ← s.putItems draft 0 s.fields items
  if rest.isEmpty then .ok draft else .error (.tooLong items.length)

def read (s : RecordShape Json δ) (draft : δ) : Json → Shaped δ
  | .object members => s.ofMembers draft members
  | .array items => s.ofItems draft items
  | j => .error (.wrongType j ("struct " ++ s.name))

end RecordShape
end ChaincodeConsole.Json
