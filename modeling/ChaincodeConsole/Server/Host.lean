import ChaincodeConsole.Server.Label
import ChaincodeConsole.Text.Integer
import ChaincodeConsole.Text.Percent

/-!
Hosts: names, numbers of four bytes, and bracketed numbers of sixteen bytes, each in the one form
that it is written in. A name is folded and composed, and its labels are written in ASCII
characters. A name whose last label is a number is a number of four bytes.
-/
namespace ChaincodeConsole.Host

inductive Fault where
  | empty
  | name
  | character
  | fourBytes
  | sixteenBytes
  deriving DecidableEq, Repr

def Fault.message : Fault → String
  | .empty => "empty host"
  | .name => "invalid international domain name"
  | .character => "invalid domain character"
  | .fourBytes => "invalid IPv4 address"
  | .sixteenBytes => "invalid IPv6 address"

def split (mark : Char) : List Char → List (List Char)
  | [] => [[]]
  | c :: r =>
    if c = mark then [] :: split mark r
    else
      match split mark r with
      | part :: parts => (c :: part) :: parts
      | [] => [[c]]

def valueIn (base : Nat) (cs : List Char) : Option Nat :=
  cs.foldlM (fun n c => ((Text.hexValue? c).filter (· < base)).map (n * base + ·)) 0

/-- A number that may be octal behind a zero and hexadecimal behind `0x`; nothing behind these is
zero. -/
def number? (cs : List Char) : Option Nat :=
  match cs with
  | [] => none
  | '0' :: 'x' :: r | '0' :: 'X' :: r => valueIn 16 r
  | '0' :: c :: r => valueIn 8 (c :: r)
  | r => valueIn 10 r

def labels (cs : List Char) : List (List Char) :=
  let parts := split '.' cs
  if 1 < parts.length ∧ parts.getLast? = some [] then parts.dropLast else parts

def endsInNumber (cs : List Char) : Bool :=
  match (labels cs).getLast? with
  | none | some [] => false
  | some last => last.all Char.isDigit || (number? last).isSome

/-- The value of four bytes from one to four numbers, the last of which fills the rest. -/
def fourBytes? (ns : List Nat) : Option Nat :=
  match ns.getLast? with
  | none => none
  | some last =>
    let lead := ns.dropLast
    if lead.length < 4 ∧ lead.all (· < 256) ∧ last < Nat.pow 256 (4 - lead.length) then
      some (lead.foldl (fun n b => n * 256 + b) 0 * Nat.pow 256 (4 - lead.length) + last)
    else none

def dotted (value : Nat) : List Char :=
  let bytes := [value / 16777216, value / 65536 % 256, value / 256 % 256, value % 256]
  List.intercalate ['.'] (bytes.map (Nat.toDigits 10))

def byte? (cs : List Char) : Option Nat :=
  if 1 < cs.length ∧ cs.head? = some '0' then none else (Text.digits? cs).filter (· < 256)

def group? (cs : List Char) : Option Nat :=
  if cs.isEmpty ∨ 4 < cs.length then none else valueIn 16 cs

def side? (dots : Bool) (cs : List Char) : Option (List Nat) :=
  if cs.isEmpty then some []
  else
    let parts := split ':' cs
    let last := parts.getLast?.getD []
    if dots ∧ last.contains '.' then do
      let lead ← parts.dropLast.mapM group?
      match ← (split '.' last).mapM byte? with
      | [a, b, c, d] => some (lead ++ [a * 256 + b, c * 256 + d])
      | _ => none
    else parts.mapM group?

def cutAtColons : List Char → List Char × Option (List Char)
  | ':' :: ':' :: r => ([], some r)
  | c :: r => ((c :: (cutAtColons r).1), (cutAtColons r).2)
  | [] => ([], none)

/-- The eight groups of a number of sixteen bytes. Two colons stand for one or more zeros. -/
def groups? (cs : List Char) : Option (List Nat) :=
  match cutAtColons cs with
  | (all, none) => (side? true all).filter (·.length = 8)
  | (before, some behind) => do
    let left ← side? false before
    let right ← side? true behind
    if left.length + right.length ≤ 7 then
      some (left ++ List.replicate (8 - left.length - right.length) 0 ++ right)
    else none

def longestZeros (groups : List Nat) : Nat × Nat :=
  (List.range groups.length).foldl (fun best start =>
    let run := ((groups.drop start).takeWhile (· = 0)).length
    if best.2 < run then (start, run) else best) (0, 0)

def bracketed (groups : List Nat) : List Char :=
  let part (gs : List Nat) : List Char := List.intercalate [':'] (gs.map (Nat.toDigits 16))
  let (start, run) := longestZeros groups
  let inner :=
    if run < 2 then part groups
    else part (groups.take start) ++ [':', ':'] ++ part (groups.drop (start + run))
  '[' :: (inner ++ [']'])

def marks : List Char := ['#', '/', ':', '<', '>', '?', '@', '[', '\\', ']', '^', '|']

def isForbidden (c : Char) : Bool :=
  c.toNat ≤ 32 || c.toNat == 127 || c == '%' || marks.contains c

def name? (cs : List Char) : Option (List Char) := do
  let folded := Text.Composed.ofChars (← Text.Folding.ofChars? cs)
  let name := List.intercalate ['.'] (← Label.allWritten? (split '.' folded))
  if name.any isForbidden then none else return name

def ofName (cs : List Char) : Except Fault (List Char) :=
  match name? cs with
  | none => .error .name
  | some name =>
    if name.isEmpty then .error .empty
    else if endsInNumber name then
      match ((labels name).mapM number?).bind fourBytes? with
      | some value => .ok (dotted value)
      | none => .error .fourBytes
    else .ok name

def ofBrackets (cs : List Char) : Except Fault (List Char) :=
  match groups? (cs.drop 1).dropLast, cs.getLast? with
  | some gs, some ']' => .ok (bracketed gs)
  | _, _ => .error .sixteenBytes

def ofWebText (cs : List Char) : Except Fault (List Char) :=
  match cs with
  | [] => .error .empty
  | '[' :: _ => ofBrackets cs
  | _ =>
    match Text.strict? (Text.percentDecoded cs) with
    | some name => ofName name.toList
    | none => .error .name

def ofOtherText (cs : List Char) : Except Fault (List Char) :=
  match cs with
  | '[' :: _ => ofBrackets cs
  | _ =>
    if cs.any fun c => c.toNat = 0 || c = ' ' || marks.contains c then .error .character
    else .ok (Text.percentChars (fun c => 32 ≤ c.toNat && c.toNat < 127) cs)

end ChaincodeConsole.Host
