import ChaincodeConsole.Settings.Basic
import ChaincodeConsole.Stream.Line
import ChaincodeConsole.Text.Letter

/-!
The variables of the environment, and a file that may add to them. Each of its lines gives a name
and a value; what is set already stays. A value may be quoted, and run over lines within quotes;
outside single quotes a dollar sign stands before the name of another variable, made of letters
and numbers of any script, or of anything between braces. Reading ends at the first line that is
wrong.
-/
namespace ChaincodeConsole

abbrev Environment := List (String × String)

namespace Environment

def behind? : List Char → List Char → Option (List Char)
  | [], cs => some cs
  | a :: start, c :: cs => if a = c then behind? start cs else none
  | _ :: _, [] => none

/-- The value of a variable. An entry is a name and a value around an equals sign, and any equals
sign may be taken for that one: `a=b` has a value where `a` has one that begins with `b=`. -/
def get? (env : Environment) (name : String) : Option String :=
  if name.isEmpty then none
  else
    (env.findSome? fun entry => behind? (name ++ "=").toList (entry.1 ++ "=" ++ entry.2).toList).map
      String.ofList

def addNew (env : Environment) (name value : String) : Environment :=
  if (env.get? name).isSome then env else env ++ [(name, value)]

def overrides (env : Environment) : Overrides :=
  ⟨env.get? "LEDGERPILOT_URL", env.get? "LEDGERPILOT_TOKEN", env.get? "LEDGERPILOT_PROJECT"⟩

def logFilterName : String := "RUST_LOG"

def logFilter? (env : Environment) : Option String := env.get? logFilterName

/-- Where a line of the file stands at its end; within quotes and behind a backslash or a blank
it goes on. -/
inductive LineState where
  | complete
  | blank
  | escape
  | single (escaped : Bool)
  | double (escaped : Bool)
  | comment
  deriving DecidableEq, Repr

namespace LineState

def open? (c : Char) : LineState :=
  if c = '\\' then .escape
  else if c = '"' then .double false
  else if c = '\'' then .single false
  else .complete

def next (s : LineState) (c : Char) : LineState :=
  match s with
  | .blank => if c = '#' then .comment else open? c
  | .escape => .complete
  | .complete =>
    if Text.isBlank c && c != '\n' && c != '\r' then .blank else open? c
  | .double true => .double false
  | .double false =>
    if c = '\\' then .double true else if c = '"' then .complete else .double false
  | .single true => .single false
  | .single false =>
    if c = '\\' then .single true else if c = '\'' then .complete else .single false
  | .comment => .comment

def scan (s : LineState) (place : Nat) : List Char → LineState × Nat
  | [] => (s, place)
  | c :: r => if s.next c = .comment then (.comment, place) else scan (s.next c) (place + 1) r

end LineState

def joinLines (held : List Char) (s : LineState) : List (List Char) → List (Option (List Char))
  | [] => if s = .complete then [] else [none]
  | line :: rest =>
    let text := held ++ line
    if (Text.trimStartChars text).head? = some '#' then some [] :: joinLines [] .complete rest
    else
      match s.scan 0 line with
      | (.comment, place) => some (held ++ line.take place) :: joinLines [] .complete rest
      | (.complete, _) => some text :: joinLines [] .complete rest
      | (s, _) => joinLines text s rest

inductive Reference where
  | none
  | bare (name : List Char)
  | braced (name : List Char)
  deriving DecidableEq, Repr

inductive Quote where
  | none
  | single
  | double
  deriving DecidableEq, Repr

/-- A value under reading: its text and the name under reading are latest first. -/
structure ValueState where
  out : List Char
  quote : Quote
  escaped : Bool
  ended : Bool
  closed : Bool
  reference : Reference
  deriving DecidableEq, Repr

namespace ValueState

def start : ValueState := ⟨[], .none, false, false, false, .none⟩

def push (s : ValueState) (c : Char) : ValueState := { s with out := c :: s.out }

def resolve (value : String → String) (s : ValueState) (name : List Char) : ValueState :=
  { s with out := (value (String.ofList name.reverse)).toList.reverse ++ s.out, reference := .none }

def escapedStep? (s : ValueState) (c : Char) : Option ValueState :=
  let s := { s with escaped := false }
  if c ∈ ['\\', '\'', '"', '$', ' '] then some (s.push c)
  else if c = 'n' then some (s.push '\n')
  else none

def plainStep (s : ValueState) (c : Char) : ValueState :=
  match s.quote with
  | .single => if c = '\'' then { s with quote := .none } else s.push c
  | .double =>
    if c = '$' then { s with reference := .bare [] }
    else if c = '"' then { s with quote := .none }
    else if c = '\\' then { s with escaped := true }
    else s.push c
  | .none =>
    if c = '$' then { s with reference := .bare [] }
    else if c = '\'' then { s with quote := .single }
    else if c = '"' then { s with quote := .double }
    else if c = '\\' then { s with escaped := true }
    else if c = ' ' ∨ c = '\t' then { s with ended := true }
    else s.push c

def step? (value : String → String) (s : ValueState) (c : Char) : Option ValueState :=
  if s.closed then some s
  else if s.ended then
    if c = ' ' ∨ c = '\t' then some s
    else if c = '#' then some { s with closed := true }
    else none
  else if s.escaped then s.escapedStep? c
  else
    match s.reference with
    | .none => some (s.plainStep c)
    | .bare name =>
      if Text.isLetterOrNumber c then some { s with reference := .bare (c :: name) }
      else if c = '{' ∧ name.isEmpty then some { s with reference := .braced [] }
      else
        let s := s.resolve value name
        some (if c = '$' then { s with reference := .bare [] } else s.push c)
    | .braced name =>
      if c = '}' then some (s.resolve value name)
      else some { s with reference := .braced (c :: name) }

def finish? (value : String → String) (s : ValueState) : Option String :=
  if s.quote ≠ .none then none
  else
    match s.reference with
    | .braced _ => none
    | .bare name => some (String.ofList (s.resolve value name).out.reverse)
    | .none => some (String.ofList s.out.reverse)

end ValueState

def value? (value : String → String) (cs : List Char) : Option String :=
  (cs.foldlM (ValueState.step? value) ValueState.start).bind (·.finish? value)

def isNameStart (c : Char) : Bool := c.isAlpha || c == '_'

def isNameChar (c : Char) : Bool := c.isAlphanum || c == '_' || c == '.'

def name? (cs : List Char) : Option (String × List Char) :=
  match cs with
  | c :: _ =>
    if isNameStart c then
      some (String.ofList (cs.takeWhile isNameChar), cs.dropWhile isNameChar)
    else none
  | [] => none

def behindEquals? (cs : List Char) : Option (List Char) :=
  match Text.trimStartChars cs with
  | '=' :: r => some (Text.trimStartChars r)
  | _ => none

def binding? (cs : List Char) : Option (String × List Char) := do
  let (name, r) ← name? cs
  match behindEquals? r with
  | some r => some (name, r)
  | none =>
    if name = "export" then
      let (name, r) ← name? (Text.trimStartChars r)
      (behindEquals? r).map (name, ·)
    else none

inductive LineMeaning where
  | nothing
  | binding (name value : String)
  | wrong
  deriving DecidableEq, Repr

/-- Reads one line. A name in a value is looked up in the environment first, and then among what
the file gave without effect. -/
def meaning (env given : Environment) (line : List Char) : LineMeaning :=
  match Text.trimChars line with
  | [] => .nothing
  | '#' :: _ => .nothing
  | cs =>
    let lookUp (name : String) : String := ((env.get? name) <|> (given.lookup name)).getD ""
    match binding? cs with
    | none => .wrong
    | some (name, r) =>
      match (if r.isEmpty ∨ r.head? = some '#' then some "" else value? lookUp r) with
      | some value => .binding name value
      | none => .wrong

def isUnfit (value : String) : Bool := value.toList.contains '\x00'

/-- Takes lines up to the first that is wrong; absent if one would set a variable to a value that
none can hold. -/
def takeLines? (env given : Environment) : List (Option (List Char)) → Option Environment
  | [] => some env
  | none :: _ => some env
  | some line :: rest =>
    match meaning env given line with
    | .nothing => takeLines? env given rest
    | .wrong => some env
    | .binding name value =>
      if isUnfit value && (env.get? name).isNone then none
      else takeLines? (env.addNew name value) ((name, value) :: given) rest

def fileLines (bytes : List UInt8) : List (List Char) :=
  let (whole, rest) := Stream.cut bytes
  let lines := whole.map (· ++ [10]) ++ (if rest.isEmpty then [] else [rest])
  (lines.map Text.strict?).takeWhile (·.isSome) |>.filterMap (·.map String.toList)

def withFile? (env : Environment) (bytes : List UInt8) : Option Environment :=
  let lines := match fileLines bytes with
    | ('\uFEFF' :: r) :: rest => r :: rest
    | lines => lines
  takeLines? env [] (joinLines [] .complete lines)

end Environment
end ChaincodeConsole
