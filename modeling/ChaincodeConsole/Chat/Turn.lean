import ChaincodeConsole.Chat.Dialogue
import ChaincodeConsole.Server.EventStream

/-!
A turn of a dialogue. The stream of the reply sends its events to a queue, and reads on when all
of them are sent; the dialogue takes them from there one at a time, and between them it draws
previews, looks at listings that have arrived and notices interrupts, the first of which stops the
stream. All this happens in any order. When the stream has ended and the queue is empty the turn is
closed.
-/
namespace ChaincodeConsole

structure Turn where
  dialogue : Dialogue
  stream : EventStream
  unsent : List Event
  queue : List Event
  stopping : Bool
  out : List Emission

inductive TurnStep where
  | stream (input : StreamInput)
  | send
  | deliver
  | preview
  | interrupt
  | reloaded (reload : Nat) (outcome : Option (List FileEntry))
  | receive

namespace Turn

def start (d : Dialogue) (now : Timestamp) (prompt : String) : Turn :=
  ⟨{ d with session := d.session.submit prompt }.record now, .waiting, [], [], false, []⟩

def take (t : Turn) (e : Event) : Turn :=
  let a := t.dialogue.session.apply e
  let (out, terminal) := t.dialogue.terminal.onChange a.session a.change
  let stale := match a.completed with
    | some (name, _) => (ToolKind.ofName name).mutatesFiles
    | none => false
  { t with
    dialogue := { t.dialogue with
      session := a.session, terminal := terminal
      files := if stale then t.dialogue.files.beginReload else t.dialogue.files }
    out := t.out ++ out }

def withFiles (t : Turn) (files : FileList) : Turn :=
  { t with dialogue := { t.dialogue with files := files } }

def step (t : Turn) : TurnStep → Option Turn
  | .stream input =>
    if !t.unsent.isEmpty ∨ (input = .stop ∧ !t.stopping) then none
    else (t.stream.step input).map fun (events, s) => { t with stream := s, unsent := events }
  | .send =>
    match t.unsent with
    | [] => none
    | e :: rest => some { t with unsent := rest, queue := t.queue ++ [e] }
  | .deliver =>
    match t.queue with
    | [] => none
    | e :: rest => some ({ t with queue := rest }.take e)
  | .preview =>
    let (out, d) := t.dialogue.write (Terminal.preview t.dialogue.session)
    some { t with dialogue := d, out := t.out ++ out }
  | .interrupt => some { t with stopping := true }
  | .reloaded reload outcome => (t.dialogue.files.endReload reload outcome).map t.withFiles
  | .receive => t.dialogue.files.receive.map t.withFiles

def run (t : Turn) (steps : List TurnStep) : Option Turn := steps.foldlM step t

def settle (d : Dialogue) (outcome : Except Failure Stream.Stats) : List Emission × Dialogue :=
  match outcome with
  | .ok _ => { d with session := d.session.finish }.write Terminal.finishTurn
  | .error f =>
    if f.isAborted then
      { d with session := d.session.abort }.write (Terminal.notice "stopped")
    else
      { d with session := d.session.fail f.message }.write (Terminal.showError f.message)

def close? (t : Turn) (now : Timestamp) : Option (List Emission × Dialogue) :=
  match t.stream, t.unsent, t.queue with
  | .ended outcome, [], [] =>
    let (out, d) := settle t.dialogue outcome
    some (t.out ++ out, d.record now)
  | _, _, _ => none

end Turn
end ChaincodeConsole
