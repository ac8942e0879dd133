/-!
Lines of a text. A line ends at a line feed; one carriage return before that line feed
belongs to the line's end. A last piece without a line feed is a line as it stands,
and no line if it is empty.
-/
namespace ChaincodeConsole.Text

def dropOne [BEq α] (x : α) : List α → List α
  | [] => []
  | y :: r => if y == x then r else y :: r

/-- The lines still to come, `held` being the open line so far, latest character first. -/
def linesFrom (held : List Char) : List Char → List (List Char)
  | [] => if held.isEmpty then [] else [held.reverse]
  | c :: r =>
    if c = '\n' then (dropOne '\r' held).reverse :: linesFrom [] r
    else linesFrom (c :: held) r

def linesChars (cs : List Char) : List (List Char) := linesFrom [] cs

def lines (s : String) : List String := (linesChars s.toList).map String.ofList

def firstLine (s : String) : String := (lines s).headD ""

end ChaincodeConsole.Text
