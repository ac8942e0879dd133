import ChaincodeConsole.Text.Blank
import ChaincodeConsole.Text.Hex
import ChaincodeConsole.Text.Letter

/-!
Patterns for texts: characters, sets of characters, repetitions, groups and alternatives. A text is
read as a tree, and the tree is held against what a pattern may ask for. No tables of characters
stand behind patterns, so a class of all scripts and letters of either case can be asked for only
where a pattern confines itself to ASCII, and what could match half a character not even there.
What needs a closing brace is refused, since none can stand where patterns are written.
-/
namespace ChaincodeConsole.Text.Pattern

inductive Flag where
  | eitherCase
  | manyLines
  | anyCharacter
  | shortest
  | allScripts
  | lineEnds
  | spaced
  deriving DecidableEq, Repr

def flag? (c : Char) : Option Flag :=
  match c with
  | 'i' => some .eitherCase
  | 'm' => some .manyLines
  | 's' => some .anyCharacter
  | 'U' => some .shortest
  | 'u' => some .allScripts
  | 'R' => some .lineEnds
  | 'x' => some .spaced
  | _ => none

abbrev Changes := List (Flag × Bool)

/-- A character, which may have been given by the value of one byte. -/
structure Literal where
  char : Char
  byte : Bool
  deriving DecidableEq, Repr

inductive Item where
  | literal (l : Literal)
  | any
  | edge
  | wordEdge
  | kind (negated : Bool)
  | property
  deriving DecidableEq, Repr

inductive CharSet where
  | nothing
  | item (i : Item)
  | range (low high : Literal)
  | ascii (negated : Bool)
  | nested (negated : Bool) (inner : CharSet)
  | union (parts : List CharSet)
  | combined (left right : CharSet)
  deriving Repr

inductive Tree where
  | nothing
  | flags (changes : Changes)
  | item (i : Item)
  | set (negated : Bool) (inner : CharSet)
  | repeated (t : Tree)
  | group (name : Option (List Char)) (changes : Changes) (t : Tree)
  | sequence (ts : List Tree)
  | choice (ts : List Tree)
  deriving Repr

/-! Reading. -/

abbrev Rest := List Char

def skipBlanks (inComment : Bool) : Rest → Rest
  | [] => []
  | c :: r =>
    if inComment then skipBlanks (c != '\n') r
    else if isBlank c then skipBlanks false r
    else if c = '#' then skipBlanks true r
    else c :: r

def skip (spaced : Bool) (cs : Rest) : Rest := if spaced then skipBlanks false cs else cs

/-- The next character behind blanks and one mark of a comment, or else the first one of `all`. -/
def firstBehind (all : Rest) (marked : Bool) : Rest → Option Char
  | [] => all.head?
  | c :: r =>
    if isBlank c then firstBehind all marked r
    else if c = '#' ∧ !marked then firstBehind all true r
    else some c

def ahead (spaced : Bool) (cs : Rest) : Option Char :=
  if spaced then firstBehind cs false cs else cs.head?

def marks : List Char := "\\.+*?()|[]\x7b\x7d^$#&-~".toList

def isEscapable (c : Char) : Bool :=
  marks.contains c || (c.toNat < 128 && !c.isAlphanum && c != '<' && c != '>')

def hexDigits? (spaced : Bool) (value : Nat) : Nat → Rest → Option (Nat × Rest)
  | 0, cs => some (value, cs)
  | _ + 1, [] => none
  | n + 1, c :: r => do hexDigits? spaced (value * 16 + (← hexValue? c)) n (skip spaced r)

def hexLiteral? (spaced : Bool) (digits : Nat) (cs : Rest) : Option (Item × Rest) := do
  let (n, r) ← hexDigits? spaced 0 digits (skip spaced cs)
  if n.isValidChar then some (.literal ⟨Char.ofNat n, digits == 2⟩, r) else none

def escape? (spaced : Bool) : Rest → Option (Item × Rest)
  | [] => none
  | c :: r =>
    if c = 'x' then hexLiteral? spaced 2 r
    else if c = 'u' then hexLiteral? spaced 4 r
    else if c = 'U' then hexLiteral? spaced 8 r
    else if c = 'p' ∨ c = 'P' then
      match skip spaced r with
      | [] => none
      | name :: r =>
        if name = '\x7b' ∨ name = '\\' then none else some (.property, skip spaced r)
    else if ['d', 's', 'w'].contains c then some (.kind false, r)
    else if ['D', 'S', 'W'].contains c then some (.kind true, r)
    else if isEscapable c ∨ ['a', 'f', 't', 'n', 'r', 'v'].contains c then
      some (.literal ⟨c, false⟩, r)
    else if c = 'A' ∨ c = 'z' then some (.edge, r)
    else if ['b', 'B', '<', '>'].contains c then some (.wordEdge, r)
    else none

def asciiNames : List String :=
  ["alnum", "alpha", "ascii", "blank", "cntrl", "digit", "graph", "lower", "print", "punct",
    "space", "upper", "word", "xdigit"]

def asciiSet? (cs : Rest) : Option (CharSet × Rest) :=
  let named (negated : Bool) (cs : Rest) : Option (CharSet × Rest) :=
    let name := cs.takeWhile (· != ':')
    match cs.dropWhile (· != ':') with
    | ':' :: ']' :: r =>
      if asciiNames.contains (String.ofList name) then some (.ascii negated, r) else none
    | _ => none
  match cs with
  | ':' :: '^' :: r => named true r
  | ':' :: r => named false r
  | _ => none

def setItem? (spaced : Bool) : Rest → Option (Item × Rest)
  | [] => none
  | '\\' :: r => escape? spaced r
  | c :: r => some (.literal ⟨c, false⟩, r)

/-- A character, a range or a class in a set. A hyphen at the end of the set stands for itself, and
two hyphens are an operator. -/
def setPart? (spaced : Bool) (cs : Rest) : Option (CharSet × Rest) := do
  let (i, r) ← setItem? spaced cs
  let single := match i with
    | .literal _ | .kind _ | .property => some (CharSet.item i)
    | _ => none
  match skip spaced r with
  | [] => none
  | '-' :: r =>
    if ahead spaced r = some ']' ∨ ahead spaced r = some '-' then
      return (← single, '-' :: r)
    else
      match i, ← setItem? spaced (skip spaced r) with
      | .literal low, (.literal high, r) =>
        if low.char.toNat ≤ high.char.toNat then some (.range low high, r) else none
      | _, _ => none
  | r => return (← single, r)

/-- The hyphens that a set begins with; a bracket stands for itself only before all else. -/
def setLead (spaced : Bool) (held : List CharSet) : Nat → Rest → List CharSet × Rest
  | 0, cs => (held, cs)
  | n + 1, cs =>
    match cs with
    | '-' :: r => setLead spaced (.item (.literal ⟨'-', false⟩) :: held) n (skip spaced r)
    | ']' :: r =>
      if held.isEmpty then ([.item (.literal ⟨']', false⟩)], skip spaced r) else (held, cs)
    | _ => (held, cs)

def CharSet.ofParts : List CharSet → CharSet
  | [] => .nothing
  | [s] => s
  | parts => .union parts.reverse

def CharSet.joined (left : Option CharSet) (parts : List CharSet) : CharSet :=
  match left with
  | some l => .combined l (.ofParts parts)
  | none => .ofParts parts

def openSet (spaced : Bool) (cs : Rest) : Bool × List CharSet × Rest :=
  let cs := skip spaced cs
  match cs with
  | '^' :: r => (true, setLead spaced [] cs.length (skip spaced r))
  | _ => (false, setLead spaced [] cs.length cs)

def setParts? : Nat → Bool → Option CharSet → List CharSet → Rest → Option (CharSet × Rest)
  | 0, _, _, _, _ => none
  | fuel + 1, spaced, left, held, cs =>
    match skip spaced cs with
    | [] => none
    | ']' :: r => some (.joined left held, r)
    | '[' :: r =>
      match asciiSet? r with
      | some (s, r) => setParts? fuel spaced left (s :: held) r
      | none => do
        let (negated, lead, r) := openSet spaced r
        let (inner, r) ← setParts? fuel spaced none lead r
        setParts? fuel spaced left (.nested negated inner :: held) r
    | '&' :: '&' :: r | '-' :: '-' :: r | '~' :: '~' :: r =>
      setParts? fuel spaced (some (.joined left held)) [] r
    | c :: r => do
      let (s, r) ← setPart? spaced (c :: r)
      setParts? fuel spaced left (s :: held) r

def set? (spaced : Bool) (cs : Rest) : Option (Tree × Rest) := do
  let (negated, lead, r) := openSet spaced cs
  let (inner, r) ← setParts? (cs.length + 1) spaced none lead r
  return (.set negated inner, r)

/-- Changes of flags and the character that ends them. A hyphen takes back the flags behind it. -/
def changes? (taken : Bool) (hyphen : Bool) (held : Changes) : Rest → Option (Changes × Char × Rest)
  | [] => none
  | c :: r =>
    if c = ':' ∨ c = ')' then if hyphen then none else some (held.reverse, c, r)
    else if c = '-' then if taken then none else changes? true true held r
    else
      match flag? c with
      | some f =>
        if held.any (·.1 = f) then none else changes? taken false ((f, !taken) :: held) r
      | none => none

def isNameChar (c : Char) : Bool := c == '_' || ['.', '[', ']'].contains c || isLetterOrNumber c

def groupName? (cs : Rest) : Option (List Char × Rest) :=
  let name := cs.takeWhile (· != '>')
  match name, cs.dropWhile (· != '>') with
  | first :: others, '>' :: r =>
    if (first = '_' ∨ isLetter first) ∧ others.all isNameChar then some (name, r) else none
  | _, _ => none

inductive Opening where
  | group (name : Option (List Char)) (changes : Changes)
  | flags (changes : Changes)
  deriving Repr

def opening? (spaced : Bool) (cs : Rest) : Option (Opening × Rest) :=
  match skip spaced cs with
  | '?' :: '=' :: _ | '?' :: '!' :: _ | '?' :: '<' :: '=' :: _ | '?' :: '<' :: '!' :: _ => none
  | '?' :: 'P' :: '<' :: r | '?' :: '<' :: r =>
    (groupName? r).map fun (name, r) => (.group (some name) [], r)
  | '?' :: r => do
    let (changes, last, r) ← changes? false false [] r
    if last = ':' then some (.group none changes, r)
    else if changes.isEmpty then none else some (.flags changes, r)
  | r => some (.group none [], r)

def spacedAfter (spaced : Bool) (changes : Changes) : Bool :=
  (changes.lookup .spaced).getD spaced

def Tree.ofItems : List Tree → Tree
  | [] => .nothing
  | [t] => t
  | held => .sequence held.reverse

def Tree.ofBranches (branches : List Tree) (held : List Tree) : Tree :=
  match branches with
  | [] => .ofItems held
  | _ => .choice (.ofItems held :: branches).reverse

def branches? : Nat → Bool → List Tree → List Tree → Rest → Option (Tree × Rest)
  | 0, _, _, _, _ => none
  | fuel + 1, spaced, done, held, cs =>
    match skip spaced cs with
    | [] => some (.ofBranches done held, [])
    | ')' :: r => some (.ofBranches done held, ')' :: r)
    | '|' :: r => branches? fuel spaced (.ofItems held :: done) [] r
    | '(' :: r => do
      match ← opening? spaced r with
      | (.flags changes, r) =>
        branches? fuel (spacedAfter spaced changes) done (.flags changes :: held) r
      | (.group name changes, r) =>
        match ← branches? fuel (spacedAfter spaced changes) [] [] r with
        | (inner, ')' :: r) => branches? fuel spaced done (.group name changes inner :: held) r
        | _ => none
    | '[' :: r => do
      let (s, r) ← set? spaced r
      branches? fuel spaced done (s :: held) r
    | '{' :: _ => none
    | '\\' :: r => do
      let (i, r) ← escape? spaced r
      branches? fuel spaced done (.item i :: held) r
    | c :: r =>
      if ['?', '*', '+'].contains c then
        let r := match r with
          | '?' :: r => r
          | r => r
        match held with
        | [] | .flags _ :: _ => none
        | t :: held => branches? fuel spaced done (.repeated t :: held) r
      else
        let i : Item :=
          if c = '.' then .any else if c = '^' ∨ c = '$' then .edge else .literal ⟨c, false⟩
        branches? fuel spaced done (.item i :: held) r

def tree? (cs : Rest) : Option Tree :=
  match branches? (2 * cs.length + 1) false [] [] cs with
  | some (t, []) => some t
  | _ => none

/-! What a pattern may ask for. -/

def deepest : Nat := 250

mutual

def CharSet.depth : CharSet → Nat
  | .nested _ s => s.depth + 1
  | .union parts => CharSet.depthOfAll parts + 1
  | .combined l r => max l.depth r.depth + 1
  | _ => 0

def CharSet.depthOfAll : List CharSet → Nat
  | [] => 0
  | s :: rest => max s.depth (CharSet.depthOfAll rest)

end

mutual

def Tree.depth : Tree → Nat
  | .set _ s => s.depth + 1
  | .repeated t => t.depth + 1
  | .group _ _ t => t.depth + 1
  | .sequence ts => Tree.depthOfAll ts + 1
  | .choice ts => Tree.depthOfAll ts + 1
  | _ => 0

def Tree.depthOfAll : List Tree → Nat
  | [] => 0
  | t :: rest => max t.depth (Tree.depthOfAll rest)

end

mutual

def Tree.names : Tree → List (List Char)
  | .repeated t => t.names
  | .group name _ t => name.toList ++ t.names
  | .sequence ts => Tree.namesOfAll ts
  | .choice ts => Tree.namesOfAll ts
  | _ => []

def Tree.namesOfAll : List Tree → List (List Char)
  | [] => []
  | t :: rest => t.names ++ Tree.namesOfAll rest

end

structure Mode where
  eitherCase : Bool
  allScripts : Bool
  deriving DecidableEq, Repr

namespace Mode

def start : Mode := ⟨false, true⟩

def after (m : Mode) (changes : Changes) : Mode :=
  ⟨(changes.lookup .eitherCase).getD m.eitherCase, (changes.lookup .allScripts).getD m.allScripts⟩

def allowsLiteral (m : Mode) (l : Literal) : Bool :=
  if m.allScripts then !m.eitherCase else !l.byte || l.char.toNat < 128

def allows (m : Mode) : Item → Bool
  | .literal l => m.allowsLiteral l
  | .any => m.allScripts
  | .edge | .wordEdge => true
  | .kind negated => !m.allScripts && !negated
  | .property => false

def allowsInSet (m : Mode) (l : Literal) : Bool :=
  if m.allScripts then !m.eitherCase else l.char.toNat < 128

end Mode

mutual

def CharSet.allowed (m : Mode) : CharSet → Bool
  | .nothing => true
  | .item (.literal l) => m.allowsInSet l
  | .item i => m.allows i
  | .range low high => m.allowsInSet low && m.allowsInSet high
  | .ascii negated => if m.allScripts then !m.eitherCase else !negated
  | .nested negated s => (m.allScripts || !negated) && s.allowed m
  | .union parts => CharSet.allAllowed m parts
  | .combined l r => l.allowed m && r.allowed m

def CharSet.allAllowed (m : Mode) : List CharSet → Bool
  | [] => true
  | s :: rest => s.allowed m && CharSet.allAllowed m rest

end

structure Finding where
  mode : Mode
  allowed : Bool
  wordEdges : Bool
  deriving DecidableEq, Repr

mutual

def Tree.find (f : Finding) : Tree → Finding
  | .nothing => f
  | .flags changes => { f with mode := f.mode.after changes }
  | .item i =>
    { f with
      allowed := f.allowed && f.mode.allows i
      wordEdges := f.wordEdges || (i == .wordEdge && f.mode.allScripts) }
  | .set negated s =>
    { f with allowed := f.allowed && (f.mode.allScripts || !negated) && s.allowed f.mode }
  | .repeated t => t.find f
  | .group _ changes t =>
    { t.find { f with mode := f.mode.after changes } with mode := f.mode }
  | .sequence ts => Tree.findAll f ts
  | .choice ts => Tree.findAll f ts

def Tree.findAll (f : Finding) : List Tree → Finding
  | [] => f
  | t :: rest => Tree.findAll (t.find f) rest

end

inductive Fault where
  | form
  | wordEdges
  deriving DecidableEq, Repr

def Fault.message : Fault → String
  | .form => "error building NFA"
  | .wordEdges => "unsupported regex feature for DFAs"

def fault? (cs : List Char) : Option Fault :=
  match tree? cs with
  | none => some .form
  | some t =>
    let f := t.find ⟨.start, true, false⟩
    if !f.allowed ∨ deepest < t.depth ∨ !decide t.names.Nodup then some .form
    else if f.wordEdges then some .wordEdges
    else none

end ChaincodeConsole.Text.Pattern
