import ChaincodeConsole.Server.Commit
import ChaincodeConsole.Server.Conversation
import ChaincodeConsole.Server.ProjectFile
import ChaincodeConsole.Transcript.Record

/-!
What the commands print about conversations, commits, files and the transcript.
-/
namespace ChaincodeConsole.Report

def padded (width : Nat) (s : String) : String :=
  s ++ String.ofList (List.replicate (width - s.length) ' ')

def conversation (c : Conversation) : String :=
  "  " ++ padded 24 c.id ++ "  " ++ padded 20 c.lastTouched ++ "  " ++
    c.title.getD "(untitled)" ++ "\n"

def conversations (project : Int) (cs : List Conversation) : String :=
  if cs.isEmpty then "(no conversations)\n"
  else
    "── conversations (project " ++ toString project ++ ") ──────────────────────────────\n" ++
      String.join (cs.map conversation) ++ "  (" ++ toString cs.length ++ " total)\n"

def messages (c : Conversation) : String :=
  (c.title.map fun t => "# " ++ t ++ "\n").getD "" ++
    String.join (c.messages.map fun m => m.role ++ "> " ++ m.content ++ "\n\n")

def commits (cs : List Commit) : String :=
  if cs.isEmpty then "(no commits)\n"
  else
    String.join (cs.map fun c =>
      c.shortHash ++ "  " ++ padded 20 (c.timestamp.getD "-") ++ "  " ++ c.subject ++ "\n")

def withLineEnd (s : String) : String := if s.toList.getLast? = some '\n' then s else s ++ "\n"

def file (e : FileEntry) : String :=
  match e.size with
  | some size =>
    if e.isDir then e.label ++ "\n" else e.label ++ "  (" ++ toString size ++ " bytes)\n"
  | none => e.label ++ "\n"

def tool (t : ToolSummary) : String :=
  "           ⚙ " ++ t.name ++ " " ++ t.status.name ++
    (t.error.map fun e => " (" ++ e ++ ")").getD "" ++ "\n"

def record (ahead : Int) (r : TurnRecord) : String :=
  "[" ++ (r.timestamp.behind (-ahead)).clock ++ "] " ++ r.role.name ++ "> " ++ r.content ++ "\n" ++
    String.join (r.tools.map tool)

def history (ahead : Int) (rs : List TurnRecord) : String :=
  if rs.isEmpty then "(no turns recorded today)\n" else String.join (rs.map (record ahead))

end ChaincodeConsole.Report
