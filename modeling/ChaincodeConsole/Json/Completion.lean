import ChaincodeConsole.Text.Blank

/-!
Completing a JSON text that breaks off. A scan notes which containers are open, whether a
string is open and whether it is a key; then the open string is closed, a dangling separator
dropped, a key without value or a broken literal finished, and every container closed.
The result need not be JSON: a text that is wrong rather than cut short stays wrong.
-/
namespace ChaincodeConsole.Json

/-- An open container. An object awaits its colon once a key has been closed. -/
inductive Bracket where
  | object (awaitsColon : Bool)
  | array
  deriving DecidableEq, Repr

structure Scan where
  stack : List Bracket
  inString : Bool
  escaped : Bool
  stringIsKey : Bool
  expectKey : Bool
  deriving DecidableEq, Repr

namespace Scan

def start : Scan := ⟨[], false, false, false, false⟩

def markColon (awaits : Bool) : List Bracket → List Bracket
  | .object _ :: s => .object awaits :: s
  | s => s

def closeString (s : Scan) : Scan :=
  if s.stringIsKey then
    { s with inString := false, stack := markColon true s.stack, expectKey := false }
  else { s with inString := false }

def inObject : List Bracket → Bool
  | .object _ :: _ => true
  | _ => false

def step (s : Scan) (c : Char) : Scan :=
  if s.inString then
    if s.escaped then { s with escaped := false }
    else if c = '\\' then { s with escaped := true }
    else if c = '"' then s.closeString
    else s
  else
    match c with
    | '"' => { s with inString := true, stringIsKey := s.expectKey }
    | '{' => { s with stack := .object false :: s.stack, expectKey := true }
    | '[' => { s with stack := .array :: s.stack, expectKey := false }
    | '}' | ']' => { s with stack := s.stack.tail, expectKey := false }
    | ':' => { s with stack := markColon false s.stack, expectKey := false }
    | ',' => { s with expectKey := inObject s.stack }
    | _ => s

def ofChars (cs : List Char) : Scan := cs.foldl step start

def awaitsColon (s : Scan) : Bool :=
  match s.stack with
  | .object awaits :: _ => awaits
  | _ => false

def closers (s : Scan) : List Char :=
  s.stack.map fun b => match b with
    | .object _ => '}'
    | .array => ']'

end Scan

def isHexDigit (c : Char) : Bool :=
  ('0' ≤ c && c ≤ '9') || ('a' ≤ c && c ≤ 'f') || ('A' ≤ c && c ≤ 'F')

/-- Drops an escape `\u` with fewer than four digits from the end of a reversed text. The
backslash must not itself be escaped, that is, an even number of them stands before it. -/
def dropCutUnit (rev : List Char) : List Char :=
  let digits := rev.takeWhile isHexDigit
  match rev.dropWhile isHexDigit with
  | 'u' :: '\\' :: before =>
    if digits.length < 4 ∧ (before.takeWhile (· == '\\')).length % 2 = 0 then before else rev
  | _ => rev

def dropSeparators (rev : List Char) : List Char :=
  rev.dropWhile fun c => Text.isBlank c || c == ','

def words : List (List Char) :=
  [['t', 'r', 'u', 'e'], ['f', 'a', 'l', 's', 'e'], ['n', 'u', 'l', 'l']]

def isLetter (c : Char) : Bool := ('a' ≤ c && c ≤ 'z') || ('A' ≤ c && c ≤ 'Z')

def wordRest? (word : List Char) : Option (List Char) :=
  if word.isEmpty then none
  else (words.find? fun w => word.length < w.length && word.isPrefixOf w).map
    (·.drop word.length)

def numberRest (rev : List Char) : List Char :=
  match rev with
  | c :: before =>
    if c = '-' ∨ c = '+' ∨ c = '.' then ['0']
    else if c = 'e' ∨ c = 'E' then
      match before with
      | d :: _ => if d.isDigit ∨ d = '.' then ['0'] else []
      | [] => []
    else []
  | [] => []

def literalRest (rev : List Char) : List Char :=
  match wordRest? (rev.takeWhile isLetter).reverse with
  | some rest => rest
  | none => numberRest rev

def closeCutString (s : Scan) (rev : List Char) : List Char :=
  '"' :: (if s.escaped then rev.tail else dropCutUnit rev)

def valueRest (awaitsColon : Bool) (rev : List Char) : List Char :=
  if awaitsColon then [':', 'n', 'u', 'l', 'l']
  else if rev.head? = some ':' then ['n', 'u', 'l', 'l']
  else literalRest rev

def completed (source : List Char) : List Char :=
  let scan := Scan.ofChars source
  let rev := source.reverse
  let closed := if scan.inString then closeCutString scan rev else rev
  let scan := if scan.inString then scan.closeString else scan
  let kept := dropSeparators closed
  kept.reverse ++ valueRest scan.awaitsColon kept ++ scan.closers

def complete? (text : String) : Option String :=
  let source := Text.trimChars text.toList
  let out := completed source
  if out = source then none else some (String.ofList out)

end ChaincodeConsole.Json
