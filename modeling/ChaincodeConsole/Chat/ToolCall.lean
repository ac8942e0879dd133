import ChaincodeConsole.Event
import ChaincodeConsole.Json.Preview

/-!
A tool call of the assistant, from its start to its result. The text of its arguments grows by
fragments or is replaced as a whole; the value shown for it is the preview of that text, and the
last value that needed no repair is kept beside it. A call that has its result never changes.
-/
namespace ChaincodeConsole

inductive ToolStatus where
  | started
  | streaming
  | executing
  | completed
  | failed
  deriving DecidableEq, Repr

namespace ToolStatus

def isTerminal : ToolStatus → Bool
  | .completed | .failed => true
  | _ => false

def name : ToolStatus → String
  | .started => "started"
  | .streaming => "streaming"
  | .executing => "executing"
  | .completed => "completed"
  | .failed => "failed"

def all : List ToolStatus := [.started, .streaming, .executing, .completed, .failed]

def named : List (String × ToolStatus) := all.map fun s => (s.name, s)

end ToolStatus

structure ToolCall where
  id : String
  name : String
  status : ToolStatus
  arguments : String
  parsed : Json
  quality : Json.Quality
  lastComplete : Option Json
  result : Option Json
  error : Option String
  deriving DecidableEq, Repr

structure ToolExecution where
  id : String
  name : String
  status : ToolStatus
  error : Option String
  result : Option Json
  deriving DecidableEq, Repr

namespace ToolCall

def new (id name : String) : ToolCall :=
  ⟨id, name, .started, "", .empty, .complete, none, none, none⟩

def execution (c : ToolCall) : ToolExecution := ⟨c.id, c.name, c.status, c.error, c.result⟩

/-- Arguments that stand for none yet: nothing or an empty object, blanks aside. -/
def isPlaceholder (arguments : String) : Bool :=
  let cs := Text.trimChars arguments.toList
  cs.isEmpty || cs == ['{', '}']

def withArguments (c : ToolCall) (arguments : String) : ToolCall :=
  if isPlaceholder arguments then
    { c with arguments := arguments, parsed := .empty, quality := .complete }
  else
    let p := Json.preview arguments
    { c with
      arguments := arguments, parsed := p.value, quality := p.quality,
      lastComplete := if p.quality = .complete then some p.value else c.lastComplete }

def addFragment (c : ToolCall) (fragment : String) : ToolCall :=
  c.withArguments (if isPlaceholder c.arguments then fragment else c.arguments ++ fragment)

def withArgs (c : ToolCall) (args : Json) : ToolCall :=
  { c with
    arguments := args.text, parsed := args, quality := .complete, lastComplete := some args }

def rename (c : ToolCall) (name : String) : ToolCall :=
  if name.isEmpty then c else { c with name := name }

def onStart (c : ToolCall) (e : ToolEvent) : ToolCall :=
  match e.arguments with
  | some arguments => if isPlaceholder arguments then c else c.withArguments arguments
  | none => c

def onUpdate (c : ToolCall) (e : ToolEvent) : ToolCall :=
  let c :=
    match e.arguments, e.args with
    | some fragment, _ => c.addFragment fragment
    | none, some args => c.withArgs args
    | none, none => c
  { c with status := .streaming }

def onExecute (c : ToolCall) (e : ToolEvent) : ToolCall :=
  let c :=
    match e.args with
    | some args => c.withArgs args
    | none => c
  { c with status := .executing }

def onResult (c : ToolCall) (e : ToolEvent) : ToolCall :=
  let error := e.error.filter (!·.isEmpty)
  { c with
    result := e.result, error := error,
    status := if error.isSome then .failed else .completed }

def advance (c : ToolCall) (phase : Phase) (e : ToolEvent) : ToolCall :=
  let c := c.rename e.name
  match phase with
  | .start => c.onStart e
  | .update => c.onUpdate e
  | .execute => c.onExecute e
  | .result => c.onResult e

def members (c : ToolCall) : List (String × Json) :=
  [("tool_call_id", .string c.id), ("name", .string c.name), ("status", .string c.status.name),
    ("arguments", .string c.arguments), ("parsed", c.parsed),
    ("parse_quality", .string c.quality.name), ("last_complete", c.lastComplete.getD .null),
    ("result", c.result.getD .null), ("error", Json.ofString? c.error)]

end ToolCall
end ChaincodeConsole
