import ChaincodeConsole.Text.Hex
import ChaincodeConsole.Text.Utf8

/-!
Universally unique identifiers: thirty-two hexadecimal digits, written in small letters in groups
of 8, 4, 4, 4 and 12. They are read in that form, also in braces or behind `urn:uuid:`, and
without hyphens. A text that is none of these is refused with the first thing that is wrong.
-/
namespace ChaincodeConsole

structure Uuid where
  digits : List (Fin 16)
  length_eq : digits.length = 32
  deriving DecidableEq, Repr

namespace Uuid

def zero : Uuid := ⟨List.replicate 32 ⟨0, by decide⟩, rfl⟩

/-- The identifier of digits drawn at random, which is of version 4. -/
def ofRandom (draw : Nat → Fin 16) : Uuid where
  digits := (List.range 32).map fun n =>
    if n = 12 then ⟨4, by decide⟩ else if n = 16 then ⟨8 + (draw n).val % 4, by omega⟩ else draw n
  length_eq := by simp

def digitChar (d : Fin 16) : Char := Text.lowerHexDigit d.val

def chars (u : Uuid) : List Char :=
  let cs := u.digits.map digitChar
  cs.take 8 ++ '-' :: (cs.drop 8).take 4 ++ '-' :: (cs.drop 12).take 4 ++
    '-' :: (cs.drop 16).take 4 ++ '-' :: cs.drop 20

def text (u : Uuid) : String := String.ofList u.chars

inductive Fault where
  | character (c : Char) (place : Nat)
  | groupCount (count : Nat)
  | groupLength (group expected found : Nat)
  | length (found : Nat)
  deriving DecidableEq, Repr

def Fault.message : Fault → String
  | .character c place =>
    "UUID parsing failed: invalid character: found `" ++ c.toString ++ "` at " ++ toString place
  | .groupCount count =>
    "UUID parsing failed: invalid group count: expected 5, found " ++ toString count
  | .groupLength group expected found =>
    "UUID parsing failed: invalid group length in group " ++ toString group ++ ": expected " ++
      toString expected ++ ", found " ++ toString found
  | .length found => "UUID parsing failed: invalid length: found " ++ toString found

def digit? (c : Char) : Option (Fin 16) :=
  (Text.hexValue? c).bind fun n => if h : n < 16 then some ⟨n, h⟩ else none

def ofDigits? (cs : List Char) : Option Uuid := do
  let ds ← cs.mapM digit?
  if h : ds.length = 32 then some ⟨ds, h⟩ else none

def groups : List Char → List (List Char)
  | [] => [[]]
  | '-' :: r => [] :: groups r
  | c :: r =>
    match groups r with
    | g :: gs => (c :: g) :: gs
    | [] => [[c]]

def groupLengths : List Nat := [8, 4, 4, 4, 12]

def ofGroups? (cs : List Char) : Option Uuid :=
  let gs := groups cs
  if gs.map List.length = groupLengths then ofDigits? gs.flatten else none

def byteCount (cs : List Char) : Nat := (Text.utf8Chars cs).length

def unbraced? : List Char → Option (Nat × List Char)
  | '{' :: r => if r.getLast? = some '}' then some (1, r.dropLast) else none
  | _ => none

def nameMark : List Char := "urn:uuid:".toList

def unmarked? (cs : List Char) : Option (Nat × List Char) :=
  if (cs.take nameMark.length).map Char.toLower = nameMark then
    some (nameMark.length, cs.drop nameMark.length)
  else none

def unwrap? (cs : List Char) : Option (Nat × List Char) := unmarked? cs <|> unbraced? cs

/-- The part of a text that must be five groups, told by the text's size alone: all of it, or what
is wrapped. -/
def groupedPart? (cs : List Char) : Option (List Char) :=
  match byteCount cs with
  | 36 => some cs
  | 38 => (unbraced? cs).map (·.2)
  | 45 => (unmarked? cs).map (·.2)
  | _ => none

def longest : Nat := 45

def strayFrom (place : Nat) : List Char → Option Fault
  | [] => none
  | c :: r =>
    if c = '-' ∨ (digit? c).isSome then strayFrom (place + c.utf8Size) r
    else some (.character c place)

/-- The first group of the wrong length. The last one counts all characters that stand behind the
place where it begins. -/
def badGroup (total group : Nat) : List Nat → List (List Char) → Fault
  | [], _ => .groupLength 4 12 (total - 24)
  | [expected], _ => .groupLength group expected (total - 24)
  | expected :: lengths, g :: gs =>
    if g.length = expected then badGroup total (group + 1) lengths gs
    else .groupLength group expected g.length
  | expected :: _, [] => .groupLength group expected 0

/-- What is wrong with the body of a text whose size is `total`. Without a hyphen a text that need
not be `grouped` has a wrong length; all else is counted in groups. Places count from `lead`. -/
def bodyFault (total lead : Nat) (grouped : Bool) (body : List Char) : Fault :=
  match strayFrom lead body with
  | some f => f
  | none =>
    let gs := groups body
    if gs.length = 1 ∧ !grouped then .length total
    else if gs.length ≠ 5 then .groupCount gs.length
    else badGroup total 0 groupLengths gs

/-- What is wrong with a text that is no identifier. One of the size of a form is held against that
form; nothing is read of one that is longer than all forms. -/
def fault (cs : List Char) : Fault :=
  let size := byteCount cs
  if longest < size then .length size
  else
    match groupedPart? cs with
    | some body => bodyFault 36 0 true body
    | none =>
      match unwrap? cs with
      | some (lead, body) => bodyFault size lead true body
      | none => bodyFault size 0 false cs

def ofChars (cs : List Char) : Except Fault Uuid :=
  let read :=
    match unwrap? cs with
    | some (_, body) => ofGroups? body
    | none => ofDigits? cs <|> ofGroups? cs
  match read with
  | some u => .ok u
  | none => .error (fault cs)

def ofText (s : String) : Except Fault Uuid := ofChars s.toList

end Uuid
end ChaincodeConsole
