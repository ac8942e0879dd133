import ChaincodeConsole.Chat.Session
import ChaincodeConsole.Tool.Display

/-!
A chat on a terminal. What is written is lasting, or it belongs to the progress preview, of which
the row that the cursor is left in is erased before anything lasting follows. The text of a reply
is written as it arrives and ends its line before anything else is printed.
-/
namespace ChaincodeConsole

inductive Colour where
  | standard
  | grey
  | red
  | green
  | yellow
  | cyan
  deriving DecidableEq, Repr

namespace Colour

def sequence : Colour → String
  | .standard => "\x1b[39m"
  | .grey => "\x1b[38;5;8m"
  | .red => "\x1b[38;5;9m"
  | .green => "\x1b[38;5;10m"
  | .yellow => "\x1b[38;5;11m"
  | .cyan => "\x1b[38;5;14m"

def paint (c : Colour) (text : String) : String := c.sequence ++ text ++ "\x1b[39m"

end Colour

inductive Emission where
  | lasting (text : String)
  | preview (text : String)
  | erase
  deriving DecidableEq, Repr

namespace Emission

def text : Emission → String
  | .lasting text => text
  | .preview text => text
  | .erase => "\r\x1b[2K"

def isLasting : Emission → Bool
  | .lasting _ => true
  | _ => false

def joined (es : List Emission) : String := String.join (es.map text)

end Emission

structure TerminalOptions where
  colour : Bool
  interactive : Bool
  showArguments : Bool
  maxViewLines : Nat
  deriving DecidableEq, Repr

structure Terminal where
  options : TerminalOptions
  inText : Bool
  previewShown : Bool
  lastView : Option View
  deriving DecidableEq, Repr

abbrev Written := List Emission × Terminal

namespace Terminal

def start (options : TerminalOptions) : Terminal := ⟨options, false, false, none⟩

def paint (t : Terminal) (c : Colour) (text : String) : String :=
  if t.options.colour then c.paint text else text

def andThen (w : Written) (f : Terminal → Written) : Written :=
  let (more, t) := f w.2
  (w.1 ++ more, t)

def write (text : String) (t : Terminal) : Written := ([.lasting text], t)

def clearPreview (t : Terminal) : Written :=
  if t.previewShown then ([.erase], { t with previewShown := false }) else ([], t)

def endText (t : Terminal) : Written :=
  if t.inText then ([.lasting "\n"], { t with inText := false }) else ([], t)

def finishTurn (t : Terminal) : Written := andThen t.clearPreview endText

def toneColour : Tone → Colour
  | .running => .yellow
  | .success => .green
  | .error => .red

def styleColour : LineStyle → Colour
  | .plain => .standard
  | .code => .cyan
  | .added => .green
  | .removed => .red
  | .muted => .grey
  | .error => .red

def viewLine (t : Terminal) (line : ViewLine) : String :=
  "    " ++ t.paint (styleColour line.style) (line.style.marker ++ line.text) ++ "\n"

def viewText (t : Terminal) (v : View) : String :=
  "  " ++ t.paint (toneColour v.tone) v.title ++ "\n" ++ String.join (v.lines.map t.viewLine)

def printView (v : View) (t : Terminal) : Written := write (t.viewText v) t

def printLine (text : String) (t : Terminal) : Written :=
  andThen t.finishTurn (write (text ++ "\n"))

def line (text : String) (t : Terminal) : Written := t.printLine text

def notice (text : String) (t : Terminal) : Written := t.printLine (t.paint .grey text)

def showError (text : String) (t : Terminal) : Written :=
  t.printLine (t.paint .red ("error: " ++ text))

def onText (delta : String) (t : Terminal) : Written :=
  andThen t.clearPreview fun t =>
    if t.inText then t.write delta
    else { t with inText := true }.write (t.paint .cyan "assistant> " ++ delta)

def onCall (phase : Phase) (call : ToolCall) (t : Terminal) : Written :=
  match phase with
  | .start => t.printLine (t.paint .grey ("⚙ " ++ call.name))
  | .update => ([], t)
  | .execute =>
    let v := Display.call call t.options.maxViewLines
    if t.options.showArguments && !v.lines.isEmpty then andThen t.finishTurn (printView v)
    else ([], t)
  | .result =>
    let v := Display.call call t.options.maxViewLines
    andThen t.finishTurn fun t => { t with lastView := some v }.printView v

def limitText : Option String → String
  | some message => "step limit reached: " ++ message
  | none => "step limit reached"

def onLimit (message : Option String) (t : Terminal) : Written :=
  t.printLine (t.paint .yellow
    (limitText message ++ "; send a follow-up to let the assistant continue"))

def onChange (s : Session) (change : Change) (t : Terminal) : Written :=
  match change with
  | .text delta => t.onText delta
  | .tool id phase =>
    match s.findCall? id with
    | some call => t.onCall phase call
    | none => ([], t)
  | .stepsExhausted message => t.onLimit message
  | .ignored => ([], t)

def previewText (active : ToolExecution) (arguments : String) : String :=
  let view := Display.update (ToolKind.ofName active.name) (Json.preview arguments).value
  "⋯ " ++ view.title ++ " (" ++ toString arguments.utf8ByteSize ++ " bytes)"

def preview (s : Session) (t : Terminal) : Written :=
  if !t.options.interactive || t.inText then ([], t)
  else
    match s.active, s.activeArguments? with
    | some active, some arguments =>
      ([.erase, .preview (t.paint .grey (previewText active arguments))],
        { t with previewShown := true })
    | _, _ => ([], t)

end Terminal
end ChaincodeConsole
