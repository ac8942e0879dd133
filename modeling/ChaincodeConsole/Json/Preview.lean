import ChaincodeConsole.Json.Completion
import ChaincodeConsole.Json.Reader

/-!
A view of a JSON text at any moment of its arrival: its value if it is complete, else the value
of its completion, else an object that holds the raw text.
-/
namespace ChaincodeConsole.Json

inductive Quality where
  | complete
  | repaired
  | raw
  deriving DecidableEq, Repr

def Quality.name : Quality → String
  | .complete => "complete"
  | .repaired => "repaired"
  | .raw => "raw"

structure Preview where
  value : Json
  quality : Quality
  deriving DecidableEq, Repr

def preview (text : String) : Preview :=
  match ofText? text with
  | some value => ⟨value, .complete⟩
  | none =>
    match (complete? text).bind ofText? with
    | some value => ⟨value, .repaired⟩
    | none => ⟨.object [("raw", .string text)], .raw⟩

end ChaincodeConsole.Json
