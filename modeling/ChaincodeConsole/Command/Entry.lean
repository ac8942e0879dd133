import ChaincodeConsole.Text.Blank

/-!
A line that is entered in a chat: a command of the chat, which begins with a slash, or a prompt.
-/
namespace ChaincodeConsole

inductive Entry where
  | nothing
  | leave
  | help
  | copy
  | files
  | fresh
  | unknown (text : String)
  | prompt (text : String)
  deriving DecidableEq, Repr

namespace Entry

def ofLine (line : String) : Entry :=
  let text := Text.trim line
  match text with
  | "" => .nothing
  | "/exit" | "/quit" => .leave
  | "/help" => .help
  | "/copy" => .copy
  | "/files" => .files
  | "/new" => .fresh
  | _ => if text.toList.head? = some '/' then .unknown text else .prompt text

def helpText : String :=
  "/help   show this list\n" ++
  "/copy   copy the last tool output (or reply) to the clipboard\n" ++
  "/files  list project files\n" ++
  "/new    start a new conversation\n" ++
  "/exit   leave the session\n" ++
  "Ctrl-C stops the current reply, or leaves when idle.\n"

end Entry
end ChaincodeConsole
