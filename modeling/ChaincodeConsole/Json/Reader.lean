import ChaincodeConsole.Json.Numeral
import ChaincodeConsole.Text.Hex

/-!
The strict reader, as a machine that takes one character at a time. Its state is what may come
next and the containers that are open; a value that is complete goes into the innermost
container. At most 127 containers may be open at once. A number ends at the first character
that does not belong to it, which is then taken anew.
-/
namespace ChaincodeConsole.Json

/-- An open container with what it holds so far, items latest first. `member` waits for the
value of its key. -/
inductive Frame where
  | list (items : List Json)
  | record (members : List (String × Json))
  | member (members : List (String × Json)) (key : String)
  deriving Repr

/-- Where the reading of an escape stands. A hexadecimal unit counts its bytes and loses its
value at a byte that is no digit; `high` is a leading surrogate read before. -/
inductive Escape where
  | none
  | open
  | unit (high : Option Nat) (taken : Nat) (value : Option Nat)
  | pairSlash (high : Nat)
  | pairLetter (high : Nat)
  deriving DecidableEq, Repr

inductive Mode where
  /-- A value, at the top, after a colon or after a comma in a list. -/
  | value
  | firstItem
  | item
  | firstKey
  | key
  | colon (name : String)
  | next
  | done (value : Json)
  | text (forKey : Bool) (held : List Char) (escape : Escape)
  | word (left : List Char) (value : Json)
  | number (n : Numeral)
  deriving Repr

structure Reader where
  mode : Mode
  stack : List Frame
  deriving Repr

namespace Reader

def start : Reader := ⟨.value, []⟩

def depthLimit : Nat := 127

def isSpace (c : Char) : Bool := c == ' ' || c == '\t' || c == '\n' || c == '\r'

def deliver (value : Json) : List Frame → Reader
  | [] => ⟨.done value, []⟩
  | .list items :: s => ⟨.next, .list (value :: items) :: s⟩
  | .member members key :: s => ⟨.next, .record (insertMember key value members) :: s⟩
  | .record members :: s => ⟨.next, .record members :: s⟩

def closeText (forKey : Bool) (held : List Char) (stack : List Frame) : Reader :=
  let s := String.ofList held.reverse
  if forKey then ⟨.colon s, stack⟩ else deliver (.string s) stack

def openContainer (mode : Mode) (frame : Frame) (stack : List Frame) : Except Stop Reader :=
  if stack.length < depthLimit then .ok ⟨mode, frame :: stack⟩ else .error ⟨.tooDeep, 1⟩

def openValue (stack : List Frame) (c : Char) : Except Stop Reader :=
  match c with
  | '{' => openContainer .firstKey (.record []) stack
  | '[' => openContainer .firstItem (.list []) stack
  | '"' => .ok ⟨.text false [] .none, stack⟩
  | 't' => .ok ⟨.word ['r', 'u', 'e'] (.bool true), stack⟩
  | 'f' => .ok ⟨.word ['a', 'l', 's', 'e'] (.bool false), stack⟩
  | 'n' => .ok ⟨.word ['u', 'l', 'l'] .null, stack⟩
  | c =>
    match Numeral.open? c with
    | some n => .ok ⟨.number n, stack⟩
    | none => .error ⟨.expectedValue, 1⟩

def separate (stack : List Frame) (c : Char) : Except Stop Reader :=
  match stack with
  | .list items :: s =>
    if c = ',' then .ok ⟨.item, stack⟩
    else if c = ']' then .ok (deliver (.array items.reverse) s)
    else .error ⟨.expectedListEnd, 1⟩
  | .record members :: s =>
    if c = ',' then .ok ⟨.key, stack⟩
    else if c = '}' then .ok (deliver (.object members) s)
    else .error ⟨.expectedObjectEnd, 1⟩
  | _ => .error ⟨.trailingCharacters, 1⟩

def escapeLetter? (c : Char) : Option Char :=
  match c with
  | '"' | '\\' | '/' => some c
  | 'b' => some (Char.ofNat 8)
  | 'f' => some (Char.ofNat 12)
  | 'n' => some '\n'
  | 'r' => some '\r'
  | 't' => some '\t'
  | _ => none

def takeUnit (held : List Char) (high : Option Nat) (unit : Nat) :
    Except Fault (List Char × Escape) :=
  let trailing := 0xDC00 ≤ unit ∧ unit ≤ 0xDFFF
  match high with
  | some h =>
    if trailing then
      .ok (Char.ofNat (0x10000 + (h - 0xD800) * 0x400 + (unit - 0xDC00)) :: held, .none)
    else .error .unpairedSurrogate
  | none =>
    if trailing then .error .unpairedSurrogate
    else if 0xD800 ≤ unit ∧ unit ≤ 0xDBFF then .ok (held, .pairSlash unit)
    else .ok (Char.ofNat unit :: held, .none)

def unitStep (held : List Char) (high : Option Nat) (taken : Nat) (value : Option Nat)
    (c : Char) : Except Stop (List Char × Escape) :=
  let value := do return (← value) * 16 + (← Text.hexValue? c)
  if taken + c.utf8Size < 4 then .ok (held, .unit high (taken + c.utf8Size) value)
  else
    match value with
    | none => .error ⟨.invalidEscape, 4 - taken⟩
    | some unit =>
      match takeUnit held high unit with
      | .ok r => .ok r
      | .error f => .error ⟨f, 1⟩

def escapeStep (held : List Char) (escape : Escape) (c : Char) :
    Except Stop (List Char × Escape) :=
  match escape with
  | .none => .ok (c :: held, .none)
  | .open =>
    if c = 'u' then .ok (held, .unit none 0 (some 0))
    else
      match escapeLetter? c with
      | some d => .ok (d :: held, .none)
      | none => .error ⟨.invalidEscape, 1⟩
  | .unit high taken value => unitStep held high taken value c
  | .pairSlash high =>
    if c = '\\' then .ok (held, .pairLetter high) else .error ⟨.surrogateCut, 1⟩
  | .pairLetter high =>
    if c = 'u' then .ok (held, .unit (some high) 0 (some 0)) else .error ⟨.surrogateCut, 1⟩

def textStep (forKey : Bool) (held : List Char) (escape : Escape) (stack : List Frame)
    (c : Char) : Except Stop Reader :=
  if escape = .none ∧ c = '"' then .ok (closeText forKey held stack)
  else if escape = .none ∧ c = '\\' then .ok ⟨.text forKey held .open, stack⟩
  else if escape = .none ∧ c.toNat < 32 then .error ⟨.controlCharacter, 1⟩
  else do
    let (held, escape) ← escapeStep held escape c
    return ⟨.text forKey held escape, stack⟩

def plainStep (r : Reader) (c : Char) : Except Stop Reader :=
  match r.mode with
  | .text forKey held escape => textStep forKey held escape r.stack c
  | .word [] value => .ok (deliver value r.stack)
  | .word (w :: left) value =>
    if c = w then
      .ok (if left.isEmpty then deliver value r.stack else ⟨.word left value, r.stack⟩)
    else .error ⟨.expectedWord, 1⟩
  | .number _ => .ok r
  | .value => if isSpace c then .ok r else openValue r.stack c
  | .firstItem =>
    if isSpace c then .ok r
    else if c = ']' then .ok (deliver (.array []) r.stack.tail)
    else openValue r.stack c
  | .item =>
    if isSpace c then .ok r
    else if c = ']' then .error ⟨.trailingComma, 1⟩
    else openValue r.stack c
  | .firstKey =>
    if isSpace c then .ok r
    else if c = '}' then .ok (deliver (.object []) r.stack.tail)
    else if c = '"' then .ok ⟨.text true [] .none, r.stack⟩
    else .error ⟨.keyNotString, 1⟩
  | .key =>
    if isSpace c then .ok r
    else if c = '}' then .error ⟨.trailingComma, 1⟩
    else if c = '"' then .ok ⟨.text true [] .none, r.stack⟩
    else .error ⟨.keyNotString, 1⟩
  | .colon name =>
    if isSpace c then .ok r
    else if c = ':' then
      match r.stack with
      | .record members :: s => .ok ⟨.value, .member members name :: s⟩
      | _ => .error ⟨.expectedColon, 1⟩
    else .error ⟨.expectedColon, 1⟩
  | .next => if isSpace c then .ok r else separate r.stack c
  | .done _ => if isSpace c then .ok r else .error ⟨.trailingCharacters, 1⟩

def step (r : Reader) (c : Char) : Except Stop Reader :=
  match r.mode with
  | .number n =>
    match n.step c with
    | .more n => .ok ⟨.number n, r.stack⟩
    | .stop s => .error s
    | .past =>
      match n.value? with
      | some (.ok v) => plainStep (deliver (.number v) r.stack) c
      | some (.error f) => .error ⟨f, 0⟩
      | none => .error ⟨.invalidNumber, 1⟩
  | _ => plainStep r c

def run (r : Reader) : List Char → Except (Stop × List Char) Reader
  | [] => .ok r
  | c :: cs =>
    match r.step c with
    | .ok r => run r cs
    | .error s => .error (s, c :: cs)

def plainEnd (r : Reader) : Except Fault Json :=
  match r.mode with
  | .done value => .ok value
  | .text _ _ _ => .error .stringCut
  | .value | .item | .key | .word _ _ | .number _ => .error .valueCut
  | .firstItem => .error .listCut
  | .firstKey | .colon _ => .error .objectCut
  | .next =>
    match r.stack with
    | .list _ :: _ => .error .listCut
    | _ => .error .objectCut

def atEnd (r : Reader) : Except Fault Json :=
  match r.mode with
  | .number n =>
    match n.value? with
    | some (.ok v) => plainEnd (deliver (.number v) r.stack)
    | some (.error f) => .error f
    | none => .error .valueCut
  | _ => plainEnd r

end Reader

def ofChars (cs : List Char) : Except Located Json :=
  match Reader.start.run cs with
  | .error (stop, rest) => .error (stop.locate (cs.take (cs.length - rest.length)) rest)
  | .ok r =>
    match r.atEnd with
    | .ok value => .ok value
    | .error fault => .error ((⟨fault, 0⟩ : Stop).locate cs [])

def ofText (s : String) : Except Located Json := ofChars s.toList

def ofText? (s : String) : Option Json := (ofText s).toOption

end ChaincodeConsole.Json
