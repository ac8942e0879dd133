import ChaincodeConsole.Settings.Basic
import ChaincodeConsole.Toml.Printer

/-!
Settings as a TOML document: every section under its header, an entry on each line, sections
set apart by an empty line. A project that is not set has no entry.
-/
namespace ChaincodeConsole.Settings

def boolText (b : Bool) : String := if b then "true" else "false"

def written (s : Settings) : List (String × List (String × String)) :=
  [("server",
      [("base_url", Toml.stringText s.server.baseUrl),
        ("api_token", Toml.stringText s.server.apiToken),
        ("username", Toml.stringText s.server.username),
        ("password", Toml.stringText s.server.password),
        ("connect_timeout_secs", toString s.server.connectTimeout),
        ("request_timeout_secs", toString s.server.requestTimeout)]),
    ("project",
      (s.project.defaultId.map fun id => ("default_project_id", toString id)).toList),
    ("chat",
      [("preview_interval_ms", toString s.chat.previewInterval),
        ("show_arguments", boolText s.chat.showArguments),
        ("max_view_lines", toString s.chat.maxViewLines),
        ("transcript_enabled", boolText s.chat.transcriptEnabled),
        ("transcript_dir", Toml.stringText s.chat.transcriptDir)]),
    ("telemetry",
      [("log_level", Toml.stringText s.telemetry.logLevel),
        ("log_dir", Toml.stringText s.telemetry.logDir)])]

def sectionText (name : String) (entries : List (String × String)) : String :=
  "[" ++ name ++ "]\n" ++ String.join (entries.map fun (key, text) => key ++ " = " ++ text ++ "\n")

def text (s : Settings) : String :=
  String.intercalate "\n" (s.written.map fun (name, entries) => sectionText name entries)

end ChaincodeConsole.Settings
