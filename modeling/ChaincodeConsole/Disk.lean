/-!
A tree of directories and files around a working directory, and the operations on it that can fail.
A written path is followed from directory to directory, so a step up needs a directory to leave.
There are no links, so a place has one path only.
-/
namespace ChaincodeConsole

/-- Names from the working directory down. Above it the way is written with `..`, and a place below
the root begins with a slash as its first name. -/
abbrev Path := List String

namespace Path

def parent (p : Path) : Path := p.dropLast

def way (p : Path) : List Path := (List.range p.length).map fun n => p.take (n + 1)

def up (p : Path) : Path :=
  match p.getLast? with
  | none | some ".." => p ++ [".."]
  | some "/" => p
  | some _ => p.dropLast

def isAbove (p : Path) : Bool := p == ["/"] || p.all (· == "..")

def text (p : Path) : String :=
  match p with
  | "/" :: names => "/" ++ String.intercalate "/" names
  | names => String.intercalate "/" names

def joined (dir name : String) : String :=
  if dir.isEmpty || dir.toList.getLast? = some '/' then dir ++ name else dir ++ "/" ++ name

def parts (s : String) : List String := s.splitOn "/"

def start (s : String) : Path := if s.toList.head? = some '/' then ["/"] else []

def core (parts : List String) : List String :=
  (parts.reverse.dropWhile fun part => part = "" || part = ".").reverse

/-- Ends in a lone dot, which means a directory that is there already. -/
def endsInDot (parts : List String) : Bool := (parts.reverse.dropWhile (· = "")).head? = some "."

def next (here : Path) (part : String) : Path :=
  if part = "" ∨ part = "." then here else if part = ".." then here.up else here ++ [part]

def passed (s : String) : List Path :=
  let ps := parts s
  (List.range ps.length).map fun n => (ps.take (n + 1)).foldl next (start s)

end Path

inductive DiskNode where
  | dir
  | file (bytes : List UInt8)
  deriving DecidableEq, Repr

structure Disk where
  nodes : List (Path × DiskNode)
  deriving DecidableEq, Repr

namespace Disk

inductive Fault where
  | missing
  | taken
  | notDirectory
  | isDirectory
  | longName
  | badName
  deriving DecidableEq, Repr

def Fault.message : Fault → String
  | .missing => "No such file or directory (os error 2)"
  | .taken => "File exists (os error 17)"
  | .notDirectory => "Not a directory (os error 20)"
  | .isDirectory => "Is a directory (os error 21)"
  | .longName => "File name too long (os error 36)"
  | .badName => "file name contained an unexpected NUL byte"

def empty : Disk := ⟨[]⟩

def get? (d : Disk) (p : Path) : Option DiskNode := (d.nodes.find? (·.1 == p)).map (·.2)

def put (d : Disk) (p : Path) (n : DiskNode) : Disk := ⟨(p, n) :: d.nodes.filter (·.1 != p)⟩

def drop (d : Disk) (p : Path) : Disk := ⟨d.nodes.filter (·.1 != p)⟩

def isDir (d : Disk) (p : Path) : Bool := p.isAbove || d.get? p == some .dir

def unlink (d : Disk) (p : Path) : Disk := if d.isDir p then d else d.drop p

def exists? (d : Disk) (p : Path) : Bool := p.isAbove || (d.get? p).isSome

def read? (d : Disk) (p : Path) : Option (List UInt8) :=
  match d.get? p with
  | some (.file bytes) => some bytes
  | _ => none

def canHold (d : Disk) (p : Path) : Bool := !p.isEmpty && d.isDir p.parent && !d.isDir p

def write? (d : Disk) (p : Path) (bytes : List UInt8) : Option Disk :=
  if d.canHold p then some (d.put p (.file bytes)) else none

def makeEach (d : Disk) : List Path → Disk × Bool
  | [] => (d, true)
  | p :: rest =>
    if d.isDir p then makeEach d rest
    else if d.exists? p then (d, false)
    else makeEach (d.put p .dir) rest

def makeDirs (d : Disk) (p : Path) : Disk × Bool := d.makeEach p.way

def rename? (d : Disk) (source target : Path) : Option Disk :=
  match d.read? source with
  | some bytes => (d.drop source).write? target bytes
  | none => none

def longestName : Nat := 255

def pathLimit : Nat := 4096

def writtenFault? (s : String) : Option Fault :=
  if s.toList.contains '\x00' then some .badName
  else if s.isEmpty then some .missing
  else if pathLimit ≤ s.utf8ByteSize then some .longName else none

def step (d : Disk) (here : Path) (part : String) : Except Fault Path :=
  if !d.isDir here then .error (if d.exists? here then .notDirectory else .missing)
  else if longestName < part.utf8ByteSize then .error .longName
  else .ok (here.next part)

def reach (d : Disk) (s : String) : Except Fault Path :=
  match writtenFault? s with
  | some f => .error f
  | none => (Path.parts s).foldlM d.step (Path.start s)

def has (d : Disk) (s : String) : Bool :=
  match d.reach s with
  | .ok p => d.exists? p
  | .error _ => false

def open? (d : Disk) (s : String) : Option (List UInt8) :=
  match d.reach s with
  | .ok p => d.read? p
  | .error _ => none

def store (d : Disk) (s : String) (bytes : List UInt8) : Except Fault Disk := do
  let place ← d.reach (String.ofList (s.toList.reverse.dropWhile (· = '/')).reverse)
  if s.toList.getLast? = some '/' then throw .isDirectory
  else
    match d.write? place bytes with
    | some d => return d
    | none => throw .isDirectory

def touch (d : Disk) (s : String) : Except Fault Disk :=
  if (d.open? s).isSome then .ok d else d.store s []

/-- Makes the directories that parts lead through from a place, and tells what is in the way. A
file is known for one, and not for a place that is taken, while all before it was there already and
more is to come; `fresh` tells that a directory has been made. -/
def make (d : Disk) (fresh : Bool) (here : Path) : List String → Disk × Except Fault Unit
  | [] => (d, .ok ())
  | part :: rest =>
    let there := here.next part
    if longestName < part.utf8ByteSize then (d, .error .longName)
    else if d.isDir there then make d fresh there rest
    else if d.exists? there then
      (d, .error (if fresh || (Path.core rest).isEmpty then .taken else .notDirectory))
    else make (d.put there .dir) true there rest

def makeWay (d : Disk) (s : String) : Disk × Except Fault Unit :=
  if s.isEmpty then (d, .ok ())
  else
    match writtenFault? s with
    | some f => (d, .error f)
    | none =>
      if Path.endsInDot (Path.parts s) then
        let (d, _) := d.make false (Path.start s) (Path.core (Path.parts s)).dropLast
        (d, (d.reach s).bind fun p => if d.isDir p then .ok () else .error .notDirectory)
      else d.make false (Path.start s) (Path.parts s)

def makeWayTo (d : Disk) (s : String) : Disk × Except Fault Unit :=
  match writtenFault? s with
  | some f => (d, .error f)
  | none => d.make false (Path.start s) (Path.core (Path.parts s)).dropLast

end Disk
end ChaincodeConsole
