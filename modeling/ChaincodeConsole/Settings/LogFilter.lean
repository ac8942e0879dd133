import ChaincodeConsole.Text.Integer
import ChaincodeConsole.Text.Pattern

/-!
The filter of the program's log: directives with commas between them. A directive is a level, or
a name with a level behind an equals sign; a span stands in brackets behind the name or instead of
it, with a field in braces that may have a value. A directive that cannot be read is left out, and
a notice says so.

The blanks around a directive are passed over, but its parts are cut from it with the blanks, at
the places that they would have without. A cut within a character breaks the program.
-/
namespace ChaincodeConsole.LogFilter

inductive Fault where
  | form
  | level
  | field (fault : Text.Pattern.Fault)
  deriving DecidableEq, Repr

def Fault.message : Fault → String
  | .form => "invalid filter directive"
  | .level => "error parsing level filter: expected one of \"off\", \"error\", \"warn\", " ++
      "\"info\", \"debug\", \"trace\", or a number 0-5"
  | .field fault => "invalid field filter: " ++ fault.message

inductive Stop where
  | fault (f : Fault)
  | broken
  deriving DecidableEq, Repr

def isLevel (text : List Char) : Bool :=
  let text := String.ofList text
  ["off", "error", "warn", "info", "debug", "trace"].contains text.toLower ||
    (Text.nat64? text).any (· ≤ 5)

def isExponent (cs : List Char) : Bool :=
  match cs with
  | [] => true
  | mark :: r =>
    let digits := match r with
      | '+' :: r | '-' :: r => r
      | r => r
    (mark == 'e' || mark == 'E') && !digits.isEmpty && digits.all Char.isDigit

def isNumber (cs : List Char) : Bool :=
  let body := match cs with
    | '+' :: r | '-' :: r => r
    | r => r
  let whole := body.takeWhile Char.isDigit
  let (fraction, rest) := match body.dropWhile Char.isDigit with
    | '.' :: r => (r.takeWhile Char.isDigit, r.dropWhile Char.isDigit)
    | r => ([], r)
  ["inf", "infinity", "nan"].contains (String.ofList body).toLower ||
    ((!whole.isEmpty || !fraction.isEmpty) && isExponent rest)

/-- What is wrong with a field. Its value, which ends at a second equals sign, is a number or a
pattern. -/
def fieldFault? (field : List Char) : Option Fault :=
  if field.isEmpty then some .form
  else
    match field.dropWhile (· != '=') with
    | [] => none
    | _ :: r =>
      let value := r.takeWhile (· != '=')
      if isNumber value then none else (Text.Pattern.fault? value).map .field

def dropBytes? : Nat → List Char → Option (List Char)
  | 0, cs => some cs
  | _ + 1, [] => none
  | n + 1, c :: r => if c.utf8Size ≤ n + 1 then dropBytes? (n + 1 - c.utf8Size) r else none

def takeBytes? : Nat → List Char → Option (List Char)
  | 0, _ => some []
  | _ + 1, [] => none
  | n + 1, c :: r =>
    if c.utf8Size ≤ n + 1 then (takeBytes? (n + 1 - c.utf8Size) r).map (c :: ·) else none

def cut (text : List Char) (first last : Nat) : Except Stop (List Char) :=
  match (dropBytes? first text).bind (takeBytes? (last - first)) with
  | some part => .ok part
  | none => .error .broken

/-- What of a directive has been read, with the place in bytes where the part under reading
begins. -/
inductive State where
  | start
  | name
  | span (place : Nat)
  | field (place : Nat)
  | fields
  | spanned
  | level (place : Nat)
  deriving DecidableEq, Repr

namespace State

def ofFault (f : Option Fault) (s : State) : Except Stop State :=
  match f with
  | some f => .error (.fault f)
  | none => .ok s

def step (text : List Char) (place : Nat) (s : State) (c : Char) : Except Stop State :=
  let behind := place + 1
  let refused : Except Stop State := .error (.fault .form)
  match s with
  | .start =>
    if c = '[' then .ok (.span behind)
    else if ['-', ':', '_'].contains c || Text.isLetterOrNumber c then .ok .name
    else refused
  | .name =>
    if c = '=' then (cut text 0 place).map fun _ => .level behind
    else if c = '[' then (cut text 0 place).map fun _ => .span behind
    else .ok .name
  | .span first =>
    if c = ']' then (cut text first place).map fun _ => .spanned
    else if c = '\x7b' then (cut text first place).map fun _ => .field behind
    else .ok (.span first)
  | .field first =>
    if c = '\x7d' then (cut text first place).bind fun field => ofFault (fieldFault? field) .fields
    else .ok (.field first)
  | .fields => if c = ']' then .ok .spanned else refused
  | .spanned => if c = '=' then .ok (.level behind) else refused
  | .level first => .ok (.level first)

def run (text : List Char) (place : Nat) (s : State) : List Char → Except Stop State
  | [] => .ok s
  | c :: r => (s.step text place c).bind fun s => run text (place + c.utf8Size) s r

end State

def take (directive : String) : Except Stop Unit := do
  let text := directive.toList
  match ← State.run text 0 .start (Text.trimChars text) with
  | .name | .spanned => return ()
  | .level first =>
    let level ← cut text first directive.utf8ByteSize
    if level.isEmpty || isLevel level then return () else throw (.fault .level)
  | _ => throw (.fault .form)

def directives (filter : String) : List String := (filter.splitOn ",").filter (!·.isEmpty)

def notices? (filter : String) : Option (List String) :=
  (directives filter).foldlM (fun said d =>
    match take d with
    | .ok () => some said
    | .error (.fault f) => some (said ++ ["ignoring `" ++ d ++ "`: " ++ f.message])
    | .error .broken => none) []

def isSound? (filter : String) : Option Bool :=
  match (directives filter).mapM take with
  | .ok _ => some true
  | .error (.fault _) => some false
  | .error .broken => none

/-- What is said of the filters. One that is given and sound wins over the settings'. -/
def saidOf? (given : Option String) (own : String) : Option (List String) :=
  match given.map isSound? with
  | some none => none
  | some (some true) => some []
  | _ => notices? own

end ChaincodeConsole.LogFilter
