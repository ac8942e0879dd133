import ChaincodeConsole.Disk
import ChaincodeConsole.Stream.Line
import ChaincodeConsole.Transcript.Record

/-!
The transcript of a day: one record on each line of a file that is only ever added to. Reading
passes over lines that are no records, and ends at the first line that is no text.
-/
namespace ChaincodeConsole

structure Transcript where
  session : Uuid
  file : Option (List UInt8)
  deriving DecidableEq, Repr

namespace Transcript

def addBytes (t : Transcript) (bytes : List UInt8) : Transcript :=
  { t with file := some (t.file.getD [] ++ bytes) }

def appendRecord (t : Transcript) (r : TurnRecord) : Transcript :=
  t.addBytes (Text.utf8 (r.line ++ "\n"))

def append (t : Transcript) (now : Timestamp) (m : Message) : Transcript :=
  let r := TurnRecord.ofMessage t.session now m
  if r.isBlank then t else t.appendRecord r

/-- The lines of a file before the first that is no text. -/
def readable (bytes : List UInt8) : List String :=
  let (whole, rest) := Stream.cut bytes
  let lines := if rest.isEmpty then whole else whole ++ [rest]
  (lines.map Text.strict?).takeWhile (·.isSome) |>.filterMap id

def records (bytes : List UInt8) : List TurnRecord :=
  (readable bytes).filterMap fun line => TurnRecord.ofText? (Text.trim line)

def recent (t : Transcript) (most : Nat) : List TurnRecord :=
  let all := records (t.file.getD [])
  all.drop (all.length - most)

def clear (t : Transcript) : Transcript := { t with file := none }

def copyTo? (t : Transcript) (target : Path) (d : Disk) : Option Disk :=
  t.file.bind (d.write? target ·)

def fileName (day : String) : String := day ++ ".jsonl"

end Transcript
end ChaincodeConsole
