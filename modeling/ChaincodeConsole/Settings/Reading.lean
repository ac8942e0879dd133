import ChaincodeConsole.Settings.Basic
import ChaincodeConsole.Text.Blank
import ChaincodeConsole.Text.Integer
import ChaincodeConsole.Text.Utf8
import ChaincodeConsole.Toml.Document
import ChaincodeConsole.Toml.Section

/-!
Settings out of a file and the environment. What the file leaves out has its default. A file that
is no text counts as none; one that is no settings is an error.
-/
namespace ChaincodeConsole.Settings
open Toml (Section Value)

def serverSection : Section ServerSettings where
  fields := ["base_url", "api_token", "username", "password", "connect_timeout_secs",
    "request_timeout_secs"]
  put s field v :=
    match field with
    | "base_url" => v.string?.map fun x => { s with baseUrl := x }
    | "api_token" => v.string?.map fun x => { s with apiToken := x }
    | "username" => v.string?.map fun x => { s with username := x }
    | "password" => v.string?.map fun x => { s with password := x }
    | "connect_timeout_secs" => v.nat?.map fun x => { s with connectTimeout := x }
    | "request_timeout_secs" => v.nat?.map fun x => { s with requestTimeout := x }
    | _ => some s

def projectSection : Section ProjectSettings where
  fields := ["default_project_id"]
  put _ _ v := v.integer?.map fun x => ⟨some x⟩

def chatSection : Section ChatSettings where
  fields := ["preview_interval_ms", "show_arguments", "max_view_lines", "transcript_enabled",
    "transcript_dir"]
  put s field v :=
    match field with
    | "preview_interval_ms" => v.nat?.map fun x => { s with previewInterval := x }
    | "show_arguments" => v.bool?.map fun x => { s with showArguments := x }
    | "max_view_lines" => v.nat?.map fun x => { s with maxViewLines := x }
    | "transcript_enabled" => v.bool?.map fun x => { s with transcriptEnabled := x }
    | "transcript_dir" => v.string?.map fun x => { s with transcriptDir := x }
    | _ => some s

def telemetrySection : Section TelemetrySettings where
  fields := ["log_level", "log_dir"]
  put s field v :=
    match field with
    | "log_level" => v.string?.map fun x => { s with logLevel := x }
    | "log_dir" => v.string?.map fun x => { s with logDir := x }
    | _ => some s

def documentSection : Section Settings where
  fields := ["server", "project", "chat", "telemetry"]
  put s field v :=
    match field with
    | "server" => (serverSection.read? s.server v).map fun x => { s with server := x }
    | "project" => (projectSection.read? s.project v).map fun x => { s with project := x }
    | "chat" => (chatSection.read? s.chat v).map fun x => { s with chat := x }
    | "telemetry" => (telemetrySection.read? s.telemetry v).map fun x => { s with telemetry := x }
    | _ => some s

def ofText? (text : String) : Option Settings :=
  (Toml.read? text).bind fun entries => documentSection.read? defaults (.table entries)

def override (s : Settings) (o : Overrides) : Settings :=
  let url := o.url.filter (!Text.blank ·)
  let token := o.token.filter (!·.isEmpty)
  let project := o.project.bind fun p => Text.int64? (Text.trim p)
  { s with
    server := { s.server with
      baseUrl := (url.map Text.trim).getD s.server.baseUrl
      apiToken := token.getD s.server.apiToken }
    project := ⟨project <|> s.project.defaultId⟩ }

def load? (file : Option (List UInt8)) (o : Overrides) : Option Settings :=
  match file.bind Text.strict? with
  | some text => (ofText? text).map (·.override o)
  | none => some (defaults.override o)

end ChaincodeConsole.Settings
