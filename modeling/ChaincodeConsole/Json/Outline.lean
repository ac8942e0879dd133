import ChaincodeConsole.Json.Reader

/-!
The parts of a JSON text one level deep, each as the text it stands in: all members of an object,
repeated ones too, or the items of an array. A part has to be well-formed, but what it denotes is
left open: its numbers may be too large, its strings may hold unpaired surrogates, and it may be
of any depth.
-/
namespace ChaincodeConsole.Json

inductive Outline where
  | object (members : List (String × List Char))
  | array (items : List (List Char))
  | plain
  deriving DecidableEq, Repr

namespace Outline

def skipSpace (cs : List Char) : List Char := cs.dropWhile Reader.isSpace

/-- The text behind a string literal, behind whose opening quote it begins. -/
def passText : List Char → Option (List Char)
  | [] => none
  | '"' :: r => some r
  | '\\' :: 'u' :: a :: b :: c :: d :: r =>
    if [a, b, c, d].all fun x => (Text.hexValue? x).isSome then passText r else none
  | '\\' :: c :: r => if (Reader.escapeLetter? c).isSome then passText r else none
  | c :: r => if c.toNat < 32 ∨ c = '\\' then none else passText r

def passDigits (cs : List Char) : Option (List Char) :=
  if (cs.head?.map Char.isDigit).getD false then some (cs.dropWhile Char.isDigit) else none

def passWhole (cs : List Char) : Option (List Char) :=
  match cs with
  | '0' :: r => if (r.head?.map Char.isDigit).getD false then none else some r
  | r => passDigits r

def passExponent (cs : List Char) : Option (List Char) :=
  match cs with
  | 'e' :: '+' :: r | 'e' :: '-' :: r | 'E' :: '+' :: r | 'E' :: '-' :: r => passDigits r
  | 'e' :: r | 'E' :: r => passDigits r
  | r => some r

def passNumber (cs : List Char) : Option (List Char) := do
  let r ← passWhole (dropSign cs)
  match r with
  | '.' :: r => passExponent (← passDigits r)
  | r => passExponent r
where
  dropSign : List Char → List Char
    | '-' :: r => r
    | r => r

mutual
def passValue (fuel : Nat) (cs : List Char) : Option (List Char) :=
  match fuel with
  | 0 => none
  | fuel + 1 =>
    match skipSpace cs with
    | '"' :: r => passText r
    | '[' :: r =>
      match skipSpace r with
      | ']' :: r => some r
      | r => (items? fuel r).map (·.2)
    | '{' :: r =>
      match skipSpace r with
      | '}' :: r => some r
      | r => (members? fuel r).map (·.2)
    | 't' :: 'r' :: 'u' :: 'e' :: r => some r
    | 'f' :: 'a' :: 'l' :: 's' :: 'e' :: r => some r
    | 'n' :: 'u' :: 'l' :: 'l' :: r => some r
    | r => passNumber r

def items? (fuel : Nat) (cs : List Char) : Option (List (List Char) × List Char) :=
  match fuel with
  | 0 => none
  | fuel + 1 =>
    match passValue fuel cs with
    | none => none
    | some rest =>
      let item := cs.take (cs.length - rest.length)
      match skipSpace rest with
      | ',' :: r => (items? fuel r).map fun (items, r) => (item :: items, r)
      | ']' :: r => some ([item], r)
      | _ => none

def members? (fuel : Nat) (cs : List Char) :
    Option (List (List Char × List Char) × List Char) :=
  match fuel with
  | 0 => none
  | fuel + 1 =>
    match skipSpace cs with
    | '"' :: r =>
      match passText r with
      | none => none
      | some behind =>
        let key := '"' :: r.take (r.length - behind.length)
        match skipSpace behind with
        | ':' :: r =>
          match passValue fuel r with
          | none => none
          | some rest =>
            let value := r.take (r.length - rest.length)
            match skipSpace rest with
            | ',' :: r => (members? fuel r).map fun (ms, r) => ((key, value) :: ms, r)
            | '}' :: r => some ([(key, value)], r)
            | _ => none
        | _ => none
    | _ => none
end

def readKey? (member : List Char × List Char) : Option (String × List Char) :=
  match Json.ofChars member.1 with
  | .ok (.string key) => some (key, member.2)
  | _ => none

def ofChars? (cs : List Char) : Option Outline :=
  let fuel := cs.length + 1
  let ended {α : Type} (found : Option (α × List Char)) : Option α :=
    match found with
    | some (a, r) => if (skipSpace r).isEmpty then some a else none
    | none => none
  match skipSpace cs with
  | '[' :: r =>
    match skipSpace r with
    | ']' :: r => (ended (some ([], r))).map .array
    | r => (ended (items? fuel r)).map .array
  | '{' :: r =>
    match skipSpace r with
    | '}' :: r => (ended (some ([], r))).map .object
    | r => ((ended (members? fuel r)).bind (·.mapM readKey?)).map .object
  | r => (ended ((passValue fuel r).map fun r => ((), r))).map fun _ => .plain

/-- The value of a text that holds at most one member, if it is an object; no other object is a
plain value. -/
def plainValue? (cs : List Char) : Option Json :=
  match ofChars? cs with
  | some (.object (_ :: _ :: _)) => none
  | some _ => (Json.ofChars cs).toOption
  | none => none

end Outline
end ChaincodeConsole.Json
