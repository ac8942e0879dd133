import ChaincodeConsole.Toml.Basic

/-!
Reading a TOML value as a section of named fields. A table gives fields by name, others are left
out; an array gives them in order of declaration, and what is missing or too much does not count.
A date is a section without fields. A field's value of the wrong kind spoils the section.
-/
namespace ChaincodeConsole.Toml

structure Section (δ : Type) where
  fields : List String
  put : δ → String → Value → Option δ

namespace Section

def putEntry (s : Section δ) (draft : δ) (entry : String × Value) : Option δ :=
  if s.fields.contains entry.1 then s.put draft entry.1 entry.2 else some draft

def read? (s : Section δ) (draft : δ) : Value → Option δ
  | .table entries => entries.foldlM s.putEntry draft
  | .array items => (s.fields.zip items).foldlM s.putEntry draft
  | .datetime => some draft
  | _ => none

end Section

namespace Value

def string? : Value → Option String
  | .string s => some s
  | _ => none

def bool? : Value → Option Bool
  | .bool b => some b
  | _ => none

def integer? : Value → Option Int
  | .integer n => some n
  | _ => none

def nat? : Value → Option Nat
  | .integer (.ofNat n) => some n
  | _ => none

end Value
end ChaincodeConsole.Toml
