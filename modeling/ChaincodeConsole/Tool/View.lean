import ChaincodeConsole.Text.Line

/-!
What is shown of a tool call: a title, a tone, and lines each with a style.
-/
namespace ChaincodeConsole

inductive Tone where
  | running
  | success
  | error
  deriving DecidableEq, Repr

inductive LineStyle where
  | plain
  | code
  | added
  | removed
  | muted
  | error
  deriving DecidableEq, Repr

structure ViewLine where
  style : LineStyle
  text : String
  deriving DecidableEq, Repr

structure View where
  title : String
  tone : Tone
  lines : List ViewLine
  deriving DecidableEq, Repr

def LineStyle.marker : LineStyle → String
  | .added => "+ "
  | .removed => "- "
  | _ => ""

namespace View

def titled (title : String) (tone : Tone) : View := ⟨title, tone, []⟩

def push (v : View) (style : LineStyle) (text : String) : View :=
  { v with lines := v.lines ++ [⟨style, text⟩] }

def pushBlock (v : View) (style : LineStyle) (text : String) : View :=
  { v with lines := v.lines ++ (Text.lines text).map (⟨style, ·⟩) }

def hiddenLine (hidden : Nat) : ViewLine := ⟨.muted, "… " ++ toString hidden ++ " more lines"⟩

/-- Keeps the given number of lines and counts the rest in a line of its own; zero keeps all. -/
def truncate (v : View) (maxLines : Nat) : View :=
  if maxLines = 0 ∨ v.lines.length ≤ maxLines then v
  else { v with lines := v.lines.take maxLines ++ [hiddenLine (v.lines.length - maxLines)] }

def plainText (v : View) : String :=
  v.lines.foldl (fun out line => out ++ "\n" ++ line.style.marker ++ line.text) v.title

end View
end ChaincodeConsole
