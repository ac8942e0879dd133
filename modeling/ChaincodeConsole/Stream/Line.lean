import ChaincodeConsole.Text.Blank
import ChaincodeConsole.Text.Line
import ChaincodeConsole.Text.Utf8

/-!
Lines out of a byte stream that arrives in chunks. Bytes wait until their line feed has come, so
where the chunks are cut makes no difference, not even inside a character. A `data:` line
carries a payload; other lines, blank payloads and the end mark carry none.
-/
namespace ChaincodeConsole.Stream

/-- The complete lines of some bytes and what follows the last line feed, `held` being the
open line so far, latest byte first. -/
def cutFrom (held : List UInt8) : List UInt8 → List (List UInt8) × List UInt8
  | [] => ([], held.reverse)
  | b :: r =>
    if b = 10 then
      let (lines, rest) := cutFrom [] r
      (held.reverse :: lines, rest)
    else cutFrom (b :: held) r

def cut (bytes : List UInt8) : List (List UInt8) × List UInt8 := cutFrom [] bytes

def lineText (bytes : List UInt8) : String :=
  Text.lossy (Text.dropOne 13 bytes.reverse).reverse

structure Buffer where
  pending : List UInt8
  deriving DecidableEq, Repr

namespace Buffer

def empty : Buffer := ⟨[]⟩

def push (b : Buffer) (chunk : List UInt8) : List String × Buffer :=
  let (lines, rest) := cut (b.pending ++ chunk)
  (lines.map lineText, ⟨rest⟩)

def finish (b : Buffer) : Option String × Buffer :=
  if b.pending.isEmpty then (none, b) else (some (lineText b.pending), empty)

end Buffer

def dataMark : List Char := ['d', 'a', 't', 'a', ':']

def endMark : List Char := ['[', 'D', 'O', 'N', 'E', ']']

def payload? (line : String) : Option String :=
  match Text.afterChars? dataMark line.toList with
  | none => none
  | some rest =>
    let payload := Text.trimChars rest
    if payload = [] ∨ payload = endMark then none else some (String.ofList payload)

end ChaincodeConsole.Stream
