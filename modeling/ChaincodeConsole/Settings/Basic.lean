/-!
The settings: where the server is and how to sign in, the project to work on, how a chat is
shown and recorded, and where the program's log goes.
-/
namespace ChaincodeConsole

/-- A token signs in alone; without one a user name does, with its password. Timeouts are in
seconds. -/
structure ServerSettings where
  baseUrl : String
  apiToken : String
  username : String
  password : String
  connectTimeout : Nat
  requestTimeout : Nat
  deriving DecidableEq, Repr

structure ProjectSettings where
  defaultId : Option Int
  deriving DecidableEq, Repr

structure ChatSettings where
  previewInterval : Nat
  showArguments : Bool
  maxViewLines : Nat
  transcriptEnabled : Bool
  transcriptDir : String
  deriving DecidableEq, Repr

structure TelemetrySettings where
  logLevel : String
  logDir : String
  deriving DecidableEq, Repr

structure Settings where
  server : ServerSettings
  project : ProjectSettings
  chat : ChatSettings
  telemetry : TelemetrySettings
  deriving DecidableEq, Repr

structure Overrides where
  url : Option String
  token : Option String
  project : Option String
  deriving DecidableEq, Repr

namespace Settings

def defaults : Settings where
  server := ⟨"http://localhost:8100", "", "", "", 10, 60⟩
  project := ⟨none⟩
  chat := ⟨500, true, 20, true, ".ledgerpilot/history"⟩
  telemetry := ⟨"info", ".ledgerpilot/logs"⟩

def hasCredentials (s : Settings) : Bool := !s.server.apiToken.isEmpty || !s.server.username.isEmpty

def projectId? (s : Settings) (given : Option Int) : Option Int := given <|> s.project.defaultId

def noProjectMessage : String :=
  "no project selected; pass --project or set project.default_project_id in the config"

def hiddenSecret : String := "********"

def hideSecret (secret : String) : String := if secret.isEmpty then "" else hiddenSecret

def withoutSecrets (s : Settings) : Settings :=
  { s with server := { s.server with
      apiToken := hideSecret s.server.apiToken, password := hideSecret s.server.password } }

end Settings
end ChaincodeConsole
