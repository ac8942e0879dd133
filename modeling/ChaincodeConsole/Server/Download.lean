import ChaincodeConsole.Disk
import ChaincodeConsole.Server.Reply

/-!
Downloading to a file. The body goes into a partial file beside the destination, which takes the
destination's place when it is complete; so the destination is never seen half written. A partial
file is removed when its body cannot be had or written.
-/
namespace ChaincodeConsole.Download

def partialMark : String := ".part"

/-- The partial file of a destination; one without a name of its own has it inside. -/
def partialPath (dest : Path) : Path :=
  if dest.isAbove then dest ++ [partialMark]
  else dest.parent ++ [dest.getLast?.getD "" ++ partialMark]

/-- The states of the disk while the chunks are written, and why that ended early. The disk may
refuse the write at a given place, the last of them being the one that settles all. -/
def fill (part : Path) (refused : Option Nat) (complete : Bool) (held : List UInt8) (d : Disk) :
    List (List UInt8) → List Disk × Option Failure
  | [] =>
    if !complete then ([], some (.transport .cut))
    else if refused = some 0 then ([], some .storage)
    else ([], none)
  | chunk :: rest =>
    if refused = some 0 then ([], some .storage)
    else
      let d := d.put part (.file (held ++ chunk))
      let (states, failure) :=
        fill part (refused.map (· - 1)) complete (held ++ chunk) d rest
      (d :: states, failure)

def writeBody (part : Path) (refused : Option Nat) (r : Reply) (d : Disk) :
    List Disk × Option Failure :=
  match if refused = some 0 then none else d.write? part [] with
  | none => ([], some .storage)
  | some opened =>
    let (states, failure) := fill part (refused.map (· - 1)) r.complete [] opened r.chunks
    (opened :: states, failure)

structure Run where
  states : List Disk
  outcome : Except Failure Nat

def save (disk : Disk) (dest : Path) (refused : Option Nat) (r : Reply) : Run :=
  let (ready, made) := disk.makeDirs dest.parent
  if !made then ⟨[disk, ready], .error .storage⟩
  else
    let part := partialPath dest
    let (states, failure) := writeBody part refused r ready
    let before := disk :: ready :: states
    let last := states.getLastD ready
    match failure with
    | some f => ⟨before ++ [last.unlink part], .error f⟩
    | none =>
      match last.rename? part dest with
      | some final => ⟨before ++ [final], .ok r.bytes.length⟩
      | none => ⟨before, .error .storage⟩

def run (disk : Disk) (dest : Path) (refused : Option Nat) (d : Delivery) : Run :=
  match d.accepted with
  | .error f => ⟨[disk], .error f⟩
  | .ok r => save disk dest refused r

def Run.final (r : Run) : Disk := r.states.getLastD .empty

end ChaincodeConsole.Download
