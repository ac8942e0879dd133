import ChaincodeConsole.Chat.FileList
import ChaincodeConsole.Terminal
import ChaincodeConsole.Transcript.DayFile

/-!
A dialogue: a conversation on a project with its terminal, its transcript and the project's
files. Messages go into the transcript once they are settled, each once; those that were taken
over from the server never do.
-/
namespace ChaincodeConsole

structure Dialogue where
  project : Int
  conversation : Option String
  session : Session
  terminal : Terminal
  transcript : Option Transcript
  recorded : Nat
  files : FileList
  deriving DecidableEq, Repr

namespace Dialogue

def start (project : Int) (options : TerminalOptions) (transcript : Option Transcript) :
    Dialogue :=
  ⟨project, none, .empty, .start options, transcript, 0, .unknown⟩

def record (d : Dialogue) (now : Timestamp) : Dialogue :=
  match d.transcript with
  | none => d
  | some t =>
    let due := d.session.settled.drop d.recorded
    { d with
      transcript := some (due.foldl (·.append now ·) t)
      recorded := d.recorded + due.length }

def takenOver (c : Conversation) : List Message :=
  (c.messages.filter fun m => !Text.blank m.content).map fun m =>
    .ofText (if m.role = "user" then .user else .assistant) m.content

def resume (d : Dialogue) (id : String) (c : Conversation) : Dialogue :=
  let messages := takenOver c
  { d with
    session := .ofHistory messages, recorded := messages.length, conversation := some id }

def resumeError (id : String) : String := "loading conversation " ++ id

def reset (d : Dialogue) : Dialogue :=
  { d with session := .empty, recorded := 0, conversation := none }

def request (d : Dialogue) : ChatRequest := ⟨d.conversation, d.project, d.session.history⟩

def write (f : Terminal → Written) (d : Dialogue) : List Emission × Dialogue :=
  let (out, t) := f d.terminal
  (out, { d with terminal := t })

def writeListing (listing : Except Failure (List FileEntry)) (d : Dialogue) :
    List Emission × Dialogue :=
  match listing with
  | .error f => d.write (Terminal.showError f.chain)
  | .ok [] => d.write (Terminal.line "(no files)")
  | .ok entries =>
    d.write fun t => entries.foldl (fun w e => Terminal.andThen w (Terminal.line ("  " ++ e.label)))
      ([], t)

def showFiles (answer : Except Failure (List FileEntry)) (d : Dialogue) :
    List Emission × Dialogue :=
  let (listing, files) := d.files.refresh answer
  { d with files := files }.writeListing listing

def lastReply? (d : Dialogue) : Option Message :=
  d.session.messages.reverse.find? (·.role == .assistant)

def copyText? (d : Dialogue) : Option String :=
  (d.terminal.lastView.map View.plainText) <|>
    ((d.lastReply?.map Message.text).filter (!·.isEmpty))

def copy (clipboard : String → Except String Unit) (d : Dialogue) : List Emission × Dialogue :=
  match d.copyText? with
  | none => d.write (Terminal.notice "nothing to copy yet")
  | some text =>
    match clipboard text with
    | .ok () => d.write (Terminal.notice "copied to clipboard")
    | .error e => d.write (Terminal.showError ("clipboard error: " ++ e))

end Dialogue
end ChaincodeConsole
