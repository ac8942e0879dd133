import ChaincodeConsole.Command.Basic
import ChaincodeConsole.Text.Integer

/-!
The command line. Commands have levels; each level has options, and either further commands or
positions. The settings file and the project may be given at every level, and the deepest one
counts. An option may be given once on a level. A word that begins with a hyphen is an option
unless a lone `--` stands before it. Who asks for help gets it unless something is wrong before
that; a wrong value is noticed late if a command follows it.
-/
namespace ChaincodeConsole

inductive Level where
  | top
  | chat
  | ask
  | conversations
  | conversationsList
  | conversationsShow
  | commits
  | commitsList
  | commitsDiff
  | files
  | filesRead
  | filesWrite
  | filesList
  | logs
  | download
  | history
  | historyPath
  | historyShow
  | historyClear
  | historyExport
  | config
  | configShow
  | configInit
  deriving DecidableEq, Repr

inductive ArgumentKind where
  | flag
  | text
  | path
  | integer
  | natural
  deriving DecidableEq, Repr

structure Argument where
  id : String
  long : Option String
  short : Option Char
  kind : ArgumentKind
  required : Bool
  deriving DecidableEq, Repr

namespace Argument

def option (name : String) (kind : ArgumentKind) : Argument := ⟨name, some name, none, kind, false⟩

def withShort (c : Char) (a : Argument) : Argument := { a with short := some c }

def needed (a : Argument) : Argument := { a with required := true }

def position (id : String) (kind : ArgumentKind) : Argument := ⟨id, none, none, kind, false⟩

def accepts (a : Argument) (value : String) : Bool :=
  match a.kind with
  | .flag | .text => true
  | .path => !value.isEmpty
  | .integer => (Text.int64? value).isSome
  | .natural => (Text.nat64? value).isSome

end Argument

namespace Level

def commands : Level → List (String × Level)
  | .top =>
    [("chat", .chat), ("ask", .ask), ("conversations", .conversations), ("commits", .commits),
      ("files", .files), ("logs", .logs), ("download", .download), ("history", .history),
      ("config", .config)]
  | .conversations => [("list", .conversationsList), ("show", .conversationsShow)]
  | .commits => [("list", .commitsList), ("diff", .commitsDiff)]
  | .files => [("read", .filesRead), ("write", .filesWrite), ("ls", .filesList)]
  | .history =>
    [("path", .historyPath), ("show", .historyShow), ("clear", .historyClear),
      ("export", .historyExport)]
  | .config => [("show", .configShow), ("init", .configInit)]
  | _ => []

def needsCommand (l : Level) : Bool := l != .top && !l.commands.isEmpty

def configOption : Argument := .option "config" .path

def projectOption : Argument := (Argument.option "project" .integer).withShort 'p'

/-- The options of a level. A download takes the project as a position instead. -/
def options : Level → List Argument
  | .chat => [.option "conversation" .text, configOption, projectOption]
  | .ask => [.option "conversation" .text, .option "json" .flag, configOption, projectOption]
  | .commitsDiff => [(Argument.option "file" .text).needed, configOption, projectOption]
  | .filesWrite => [.option "from" .path, configOption, projectOption]
  | .download => [(Argument.option "output" .path).withShort 'o', configOption]
  | .historyShow => [.option "limit" .natural, configOption, projectOption]
  | .configInit => [.option "force" .flag, configOption, projectOption]
  | _ => [configOption, projectOption]

def positions : Level → List Argument
  | .ask => [(Argument.position "prompt" .text).needed]
  | .conversationsShow => [(Argument.position "id" .text).needed]
  | .commitsDiff => [(Argument.position "hash" .text).needed]
  | .filesRead | .filesWrite => [(Argument.position "path" .text).needed]
  | .filesList => [.position "dir" .text]
  | .logs => [(Argument.position "node" .integer).needed]
  | .download => [.position "project" .integer]
  | .historyExport => [(Argument.position "path" .path).needed]
  | _ => []

end Level

inductive CommandLine where
  | invoke (i : Invocation)
  | version
  | help
  | misuse
  deriving DecidableEq, Repr

inductive HelpRequest where
  | none
  | onCommand
  | onHelp
  deriving DecidableEq, Repr

structure Reading where
  level : Level
  values : List (String × String)
  given : List String
  filled : Nat
  pending : Option Argument
  /-- The last option of this level got a value that it does not take. -/
  flawed : Bool
  doomed : Bool
  separated : Bool
  help : HelpRequest
  deriving DecidableEq, Repr

namespace Reading

def start : Reading := ⟨.top, [], [], 0, none, false, false, false, .none⟩

def value? (r : Reading) (id : String) : Option String :=
  (r.values.find? (·.1 == id)).map (·.2)

def take? (r : Reading) (a : Argument) (value : String) : Option Reading :=
  if (a.long.isSome && r.given.contains a.id) || !a.accepts value then none
  else
    some { r with
      values := (a.id, value) :: r.values
      given := if a.long.isSome then a.id :: r.given else r.given
      filled := if a.long.isSome then r.filled else r.filled + 1
      pending := none }

def long? (r : Reading) (name : String) : Option Argument :=
  r.level.options.find? (·.long == some name)

def short? (r : Reading) (c : Char) : Option Argument :=
  r.level.options.find? (·.short == some c)

def position? (r : Reading) (word : String) : Option Reading :=
  match r.level.positions[r.filled]? with
  | some a => r.take? a word
  | none => none

def integer? (r : Reading) (id : String) : Option Int := (r.value? id).bind Text.int64?

def command? (r : Reading) : Option Command :=
  let text (id : String) : String := (r.value? id).getD ""
  let has (id : String) : Bool := (r.value? id).isSome
  match r.level with
  | .top => some (.chat none)
  | .chat => some (.chat (r.value? "conversation"))
  | .ask => some (.ask (text "prompt") (r.value? "conversation") (has "json"))
  | .conversationsList => some .listConversations
  | .conversationsShow => some (.showConversation (text "id"))
  | .commitsList => some .listCommits
  | .commitsDiff => some (.showDiff (text "hash") (text "file"))
  | .filesRead => some (.showFile (text "path"))
  | .filesWrite => some (.storeFile (text "path") (r.value? "from"))
  | .filesList => some (.listFiles (text "dir"))
  | .logs => (r.integer? "node").map .followLogs
  | .download => some (.download (r.value? "output"))
  | .historyPath => some .historyPath
  | .historyShow => some (.historyShow (((r.value? "limit").bind Text.nat64?).getD 20))
  | .historyClear => some .historyClear
  | .historyExport => some (.historyExport (text "path"))
  | .configShow => some .configShow
  | .configInit => some (.configInit (has "force"))
  | .conversations | .commits | .files | .history | .config => none

def finish (r : Reading) : CommandLine :=
  let missing := (r.level.options ++ r.level.positions).any fun a =>
    a.required && (r.value? a.id).isNone
  if r.help ≠ .none then .help
  else if missing || r.level.needsCommand || r.pending.isSome || r.flawed || r.doomed then .misuse
  else
    match r.command? with
    | some command =>
      .invoke ⟨(r.value? "config").getD Invocation.defaultConfig, r.integer? "project", command⟩
    | none => .misuse

inductive Word where
  | separator
  | long (name : String) (value : Option String)
  | short (letter : Char) (value : Option String)
  | plain
  deriving DecidableEq, Repr

def attached : List Char → Option String
  | [] => none
  | '=' :: r => some (String.ofList r)
  | r => some (String.ofList r)

def wordOf (word : String) : Word :=
  match word.toList with
  | ['-', '-'] => .separator
  | '-' :: '-' :: r =>
    let name := r.takeWhile (· != '=')
    match r.dropWhile (· != '=') with
    | _ :: value => .long (String.ofList name) (some (String.ofList value))
    | [] => .long (String.ofList name) none
  | '-' :: c :: r => .short c (attached r)
  | _ => .plain

def orMisuse (r : Option Reading) : Except CommandLine Reading :=
  match r with
  | some r => .ok r
  | none => .error .misuse

/-- Takes an option with the value written on to it. A flag has none; another option without one
waits for the next word. -/
def takeOption (r : Reading) (option : Option Argument) (value : Option String) :
    Except CommandLine Reading :=
  match option, value with
  | none, _ => .error .misuse
  | some a, some value => if a.kind = .flag then .error .misuse else orMisuse (r.take? a value)
  | some a, none =>
    if a.kind = .flag then orMisuse (r.take? a "")
    else .ok { r with pending := some a }

def takePlain (r : Reading) (word : String) : Except CommandLine Reading :=
  if r.level.commands.isEmpty then orMisuse (r.position? word)
  else if word = "help" then
    .ok { r with help := if r.help = .none then .onCommand else .onHelp }
  else
    match r.level.commands.find? (·.1 == word) with
    | some (_, level) =>
      .ok ⟨level, r.values, [], 0, none, false, r.flawed || r.doomed, false, r.help⟩
    | none => .error .misuse

/-- Takes a word as the value of an option. One that the option does not take counts only once
something else than a command follows. -/
def takeValue (r : Reading) (a : Argument) (word : String) : Except CommandLine Reading :=
  match wordOf word, r.take? a word with
  | .plain, some r => .ok r
  | .plain, none => .ok { r with pending := none, flawed := true }
  | _, _ => .error .misuse

def takeWord (r : Reading) (word : String) : Except CommandLine Reading :=
  match wordOf word with
  | .separator => .ok { r with separated := true }
  | .long name value =>
    if name = "help" ∧ value.isNone then .error .help
    else if name = "version" ∧ value.isNone ∧ r.level = .top then .error .version
    else r.takeOption (r.long? name) value
  | .short letter value =>
    if letter = 'h' then .error .help
    else if letter = 'V' ∧ r.level = .top then .error .version
    else r.takeOption (r.short? letter) value
  | .plain => r.takePlain word

def step (r : Reading) (word : String) : Except CommandLine Reading :=
  match r.pending with
  | some a => r.takeValue a word
  | none =>
    if r.help ≠ .none then
      if r.help = .onHelp ∨ r.level.commands.isEmpty then .error .misuse else r.takePlain word
    else if r.flawed ∧ (wordOf word ≠ .plain ∨ r.level.commands.isEmpty) then .error .misuse
    else if r.separated then orMisuse (r.position? word)
    else r.takeWord word

end Reading

def CommandLine.ofWords (words : List String) : CommandLine :=
  match words.foldlM Reading.step Reading.start with
  | .ok r => r.finish
  | .error c => c

end ChaincodeConsole
