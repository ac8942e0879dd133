import ChaincodeConsole.Server.Reply

/-!
The project's files as a chat knows them. Reloads run in the background and end in any order;
what they bring waits until it is looked at, and the last listing to have arrived counts. Only
the reload begun last is waited for when the listing is wanted.
-/
namespace ChaincodeConsole

structure FileList where
  known : Option (List FileEntry)
  arrived : List (List FileEntry)
  /-- The number of reloads begun so far, which also names the next one. -/
  begun : Nat
  running : List Nat
  awaited : Option Nat
  deriving DecidableEq, Repr

namespace FileList

def unknown : FileList := ⟨none, [], 0, [], none⟩

def beginReload (l : FileList) : FileList :=
  { l with begun := l.begun + 1, running := l.running ++ [l.begun], awaited := some l.begun }

def endReload (l : FileList) (reload : Nat) (outcome : Option (List FileEntry)) :
    Option FileList :=
  if l.running.contains reload then
    some { l with
      running := l.running.filter (· != reload), arrived := l.arrived ++ outcome.toList }
  else none

def receive (l : FileList) : Option FileList :=
  match l.arrived with
  | [] => none
  | listing :: rest => some { l with known := some listing, arrived := rest }

def isSettled (l : FileList) : Bool :=
  match l.awaited with
  | some reload => !l.running.contains reload
  | none => true

def catchUp (l : FileList) : FileList :=
  { l with known := l.arrived.getLast? <|> l.known, arrived := [], awaited := none }

/-- The listing that is wanted now, and the list after that: what is known once all arrivals have
been looked at, else what the server answers. -/
def refresh (l : FileList) (answer : Except Failure (List FileEntry)) :
    Except Failure (List FileEntry) × FileList :=
  let l := l.catchUp
  match l.known, answer with
  | some listing, _ => (.ok listing, l)
  | none, .ok listing => (.ok listing, { l with known := some listing })
  | none, .error f => (.error f, l)

end FileList
end ChaincodeConsole
