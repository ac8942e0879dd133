import ChaincodeConsole.Chat.ToolCall
import ChaincodeConsole.Tool.Kind
import ChaincodeConsole.Tool.View

/-!
The views of tool calls. Arguments may be partial, so every field is looked up under several
names and may be absent; results may be text, listings or any other value.
-/
namespace ChaincodeConsole.Display

def pathKeys : List String := ["path", "target_file", "file_path", "filename"]
def dirKeys : List String := ["dir", "path", "relative_workspace_path", "directory"]
def queryKeys : List String := ["query", "pattern", "regex"]
def contentKeys : List String := ["content", "contents", "file_content"]
def oldKeys : List String := ["old_string", "old_str", "search"]
def newKeys : List String := ["new_string", "new_str", "replace"]
def includeKeys : List String := ["include_pattern", "include", "glob"]
def commandKeys : List String := ["command", "cmd"]
def outputKeys : List String := ["content", "output", "stdout", "text", "message"]
def listingKeys : List String := ["entries", "files", "matches", "results"]

def stringAt? (keys : List String) (j : Json) : Option String :=
  keys.findSome? fun key => (j.get? key).bind Json.asString?

def asList? : Json → Option (List Json)
  | .array items => some items
  | _ => none

def asNat? : Json → Option Nat
  | .number (.natural n) => some n
  | _ => none

def asBool? : Json → Option Bool
  | .bool b => some b
  | _ => none

def asInt? : Json → Option Int
  | .number (.natural n) => if n ≤ 9223372036854775807 then some n else none
  | .number (.negative n) => some (-(n : Int))
  | _ => none

def orEllipsis : Option String → String
  | some s => if s.isEmpty then "…" else s
  | none => "…"

def resultText : Json → String
  | .null => ""
  | .string s => s
  | .object members => (stringAt? outputKeys (.object members)).getD (Json.object members).spread
  | j => j.spread

def itemLabel (item : Json) : String :=
  match item.asString? with
  | some s => s
  | none =>
    let isDir := ((item.get? "is_dir").bind asBool?).getD false ||
      (match (item.get? "type").bind Json.asString? with
        | some t => t == "dir" || t == "directory"
        | none => false)
    match stringAt? ["name", "path", "file"] item, (item.get? "line").bind asNat? with
    | some name, some line =>
      let text := (stringAt? ["content", "text"] item).getD ""
      name ++ ":" ++ toString line ++ ": " ++ Text.trim text
    | some name, none => if isDir then name ++ "/" else name
    | none, _ => item.text

def resultItems (result : Json) : List String :=
  match asList? result <|> listingKeys.findSome? fun key => (result.get? key).bind asList? with
  | some items => items.map itemLabel
  | none => (Text.lines (resultText result)).filter (!Text.blank ·)

def title (kind : ToolKind) (args : Json) : String :=
  match kind with
  | .readFile => "Read " ++ orEllipsis (stringAt? pathKeys args)
  | .writeFile => "Write " ++ orEllipsis (stringAt? pathKeys args)
  | .editFile => "Edit " ++ orEllipsis (stringAt? pathKeys args)
  | .deleteFile => "Delete " ++ orEllipsis (stringAt? pathKeys args)
  | .listDir => "List " ++ (stringAt? dirKeys args).getD "."
  | .fileSearch => "Find files \"" ++ orEllipsis (stringAt? queryKeys args) ++ "\""
  | .grepSearch =>
    "Search \"" ++ orEllipsis (stringAt? queryKeys args) ++ "\"" ++
      (match stringAt? includeKeys args with
        | some included => " in " ++ included
        | none => "")
  | .runTerminalCmd => "Run " ++ orEllipsis (stringAt? commandKeys args)
  | .other name => name

def pushText? (v : View) (style : LineStyle) : Option String → View
  | some text => v.pushBlock style text
  | none => v

def pushEdit (v : View) (args : Json) : View :=
  let v := pushText? v .removed (stringAt? oldKeys args)
  let v := pushText? v .added (stringAt? newKeys args)
  pushText? v .code (stringAt? ["code_edit"] args)

def pushValue (v : View) : Json → View
  | .null => v
  | .object [] => v
  | .string text => v.pushBlock .code text
  | j => v.pushBlock .code j.spread

def pushOutput (v : View) (result : Json) : View :=
  let v := v.pushBlock .code (resultText result)
  let v :=
    match (result.get? "stderr").bind Json.asString? with
    | some stderr => if Text.blank stderr then v else v.pushBlock .error stderr
    | none => v
  match (result.get? "exit_code").bind asInt? with
  | some code =>
    if code = 0 then v
    else { v with tone := .error }.push .error ("exit code " ++ toString code)
  | none => v

def contentLines (args : Json) : Nat :=
  match stringAt? contentKeys args with
  | some content => (Text.lines content).length
  | none => 0

def update (kind : ToolKind) (args : Json) : View :=
  let v := View.titled (title kind args) .running
  match kind with
  | .writeFile => pushText? v .added (stringAt? contentKeys args)
  | .editFile => pushEdit v args
  | .other _ => pushValue v args
  | _ => v

def execute (kind : ToolKind) (args : Json) : View :=
  let v := View.titled (title kind args) .running
  match kind with
  | .writeFile => v.push .muted ("writing " ++ toString (contentLines args) ++ " lines")
  | .editFile => pushEdit v args
  | .runTerminalCmd =>
    match stringAt? commandKeys args with
    | some command => v.push .code ("$ " ++ command)
    | none => v
  | .readFile =>
    match (args.get? "start_line").bind asNat?, (args.get? "end_line").bind asNat? with
    | some first, some last =>
      v.push .muted ("lines " ++ toString first ++ "-" ++ toString last)
    | _, _ => v
  | .other _ => pushValue v args
  | _ => v

def success (kind : ToolKind) (args result : Json) : View :=
  let v := View.titled (title kind args) .success
  match kind with
  | .readFile => v.pushBlock .code (resultText result)
  | .writeFile => v.push .muted ("wrote " ++ toString (contentLines args) ++ " lines")
  | .editFile =>
    let v := pushEdit v args
    let summary := resultText result
    if Text.blank summary then v else v.pushBlock .muted summary
  | .deleteFile => v.push .muted "deleted"
  | .listDir | .fileSearch | .grepSearch =>
    let items := resultItems result
    if items.isEmpty then v.push .muted "no results"
    else items.foldl (fun v item => v.push .plain item) v
  | .runTerminalCmd => pushOutput v result
  | .other _ => pushValue v result

/-- The view of a finished tool. An error that is present wins over the result. -/
def result (kind : ToolKind) (args : Json) (value : Option Json) (error : Option String)
    (maxLines : Nat) : View :=
  match error with
  | some error => ((View.titled (title kind args) .error).pushBlock .error error).truncate maxLines
  | none => (success kind args (value.getD .null)).truncate maxLines

def call (c : ToolCall) (maxLines : Nat) : View :=
  let kind := ToolKind.ofName c.name
  let v :=
    match c.status with
    | .started | .streaming => update kind c.parsed
    | .executing => execute kind c.parsed
    | .completed | .failed => result kind c.parsed c.result c.error maxLines
  v.truncate maxLines

end ChaincodeConsole.Display
