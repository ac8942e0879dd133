import ChaincodeConsole.Command.Basic
import ChaincodeConsole.Server.Download
import ChaincodeConsole.Settings.Basic
import ChaincodeConsole.Transcript.DayFile

/-!
Where a command looks: the files that its outcome may depend on or that it may change, and whether
it reads the input.
-/
namespace ChaincodeConsole

def Settings.transcriptPath (s : Settings) (day : String) : String :=
  Path.joined s.chat.transcriptDir (Transcript.fileName day)

def Settings.logPath (s : Settings) (day : Date) : String :=
  Path.joined s.telemetry.logDir ("ledgerpilot.log." ++ String.ofList (Timestamp.dayChars day))

def archiveName (project : Int) : String := "project-" ++ toString project ++ ".zip"

namespace Invocation

def places (i : Invocation) (s : Settings) (day : String) (logDay : Date) : List String :=
  let own := match i.command with
    | .storeFile _ (some source) => [source]
    | .download output =>
      let name := output.getD (archiveName ((s.projectId? i.project).getD 0))
      [name, name ++ Download.partialMark]
    | .historyExport target => [target]
    | _ => []
  [i.config, s.logPath logDay, s.transcriptPath day] ++ own

def readsInput (i : Invocation) : Bool :=
  match i.command with
  | .chat _ | .storeFile _ none => true
  | _ => false

end Invocation
end ChaincodeConsole
