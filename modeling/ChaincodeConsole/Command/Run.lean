import ChaincodeConsole.Chat.Exchange
import ChaincodeConsole.Command.Arguments
import ChaincodeConsole.Command.Entry
import ChaincodeConsole.Command.Environment
import ChaincodeConsole.Command.Places
import ChaincodeConsole.Command.Report
import ChaincodeConsole.Settings.LogFilter
import ChaincodeConsole.Settings.Printer
import ChaincodeConsole.Settings.Reading

/-!
Running a command. What it finds is given to it: words, variables, input, the disk, the day and
the time, a name for its session, and what the network makes of a request. What it does is what
it prints, the disk it leaves, and the error it ends with.
-/
namespace ChaincodeConsole

structure World where
  environment : Environment
  variableFile : Option (List UInt8)
  input : List UInt8
  disk : Disk
  today : String
  ahead : Int
  now : Timestamp
  session : Uuid
  network : Request → Delivery
  clipboard : String → Except String Unit

structure Progress where
  out : String
  disk : Disk

abbrev Work := ExceptT String (StateM Progress)

namespace Work

def say (text : String) : Work Unit := modify fun p => { p with out := p.out ++ text }

def disk : Work Disk := do return (← get).disk

def setDisk (d : Disk) : Work Unit := modify fun p => { p with disk := d }

def ofExcept (r : Except Failure α) : Work α :=
  match r with
  | .ok a => pure a
  | .error f => throw f.message

def ofOption (r : Option α) (error : String) : Work α :=
  match r with
  | some a => pure a
  | none => throw error

end Work

open Work

def notText : String := "stream did not contain valid UTF-8"

structure Office where
  world : World
  settings : Settings
  config : String
  given : Option Int

namespace Office

def server (o : Office) : Server := .ofSettings o.settings.server

def ask (o : Office) (e : Endpoint) : Delivery :=
  match Request.make o.server e with
  | .ok r => o.world.network r
  | .error fault => .error (.notMade fault)

def project (o : Office) : Work Int :=
  ofOption (o.settings.projectId? o.given) Settings.noProjectMessage

def transcriptPath (o : Office) : String := o.settings.transcriptPath o.world.today

def transcript (o : Office) (d : Disk) : Transcript :=
  ⟨o.world.session, d.open? o.transcriptPath⟩

def ready (o : Office) (d : Disk) : Disk := (d.makeWay o.settings.chat.transcriptDir).1

def keep (o : Office) (d : Dialogue) : Work Unit := do
  let ready := o.ready (← disk)
  match d.transcript.bind (·.file) with
  | none => pure ()
  | some bytes =>
    if ready.open? o.transcriptPath = some bytes then pure ()
    else setDisk ((ready.store o.transcriptPath bytes).toOption.getD ready)

/-- A dialogue at its start. Its transcript goes on where one is found once there is a directory
for it. -/
def dialogue (o : Office) (project : Int) (d : Disk) : Dialogue :=
  .start project ⟨false, false, o.settings.chat.showArguments, o.settings.chat.maxViewLines⟩
    (if o.settings.chat.transcriptEnabled then some (o.transcript (o.ready d)) else none)

def openDialogue (o : Office) (project : Int) (conversation : Option String) : Work Dialogue := do
  let d := o.dialogue project (← disk)
  match conversation with
  | none => return d
  | some id =>
    match (o.ask (.conversation project id)).conversation with
    | .ok c => return d.resume id c
    | .error _ => throw (Dialogue.resumeError id)

def turn (o : Office) (d : Dialogue) (prompt : String) : Work (List Emission × Dialogue) := do
  let reply (r : ChatRequest) : Delivery := o.ask (.chat r)
  let (out, d) := (d.turn o.world.now prompt reply (o.ask (.listFiles d.project ""))).getD ([], d)
  o.keep d
  return (out, d)

def askOnce (o : Office) (prompt : String) (conversation : Option String) (json : Bool) :
    Work Unit := do
  let d ← o.openDialogue (← o.project) conversation
  let (out, d) ← o.turn d prompt
  if json then
    say (((d.lastReply?.map Message.toJson).getD .null).spread ++ "\n")
  else say (Emission.joined out)
  match d.session.lastError with
  | some e => throw ("chat failed: " ++ e)
  | none => pure ()

def enter (o : Office) (d : Dialogue) (entry : Entry) : Work (Dialogue × Bool) := do
  let shown (r : List Emission × Dialogue) : Work (Dialogue × Bool) := do
    say (Emission.joined r.1)
    return (r.2, true)
  match entry with
  | .nothing => return (d, true)
  | .leave => return (d, false)
  | .help =>
    say Entry.helpText
    return (d, true)
  | .copy => shown (d.copy o.world.clipboard)
  | .files => shown (d.showFiles (o.ask (.listFiles d.project "")).listing)
  | .fresh =>
    say "started a new conversation\n"
    return (d.reset, true)
  | .unknown text =>
    say ("unknown command " ++ text ++ "; try /help\n")
    return (d, true)
  | .prompt text => shown (← o.turn d text)

def greeting (o : Office) (d : Dialogue) : String :=
  let earlier := d.session.messages.length
  "ledgerpilot chat · project " ++ toString d.project ++ " · " ++ o.server.baseUrl ++ "\n" ++
    "type a message, or /help for commands\n" ++
    (if earlier = 0 then "" else "(" ++ toString earlier ++ " earlier messages loaded)\n")

def promptMark : String := "you> "

def farewell : String := "session closed\n"

def converse (o : Office) (d : Dialogue) : List (Option String) → Work Unit
  | [] => say (promptMark ++ "\n" ++ farewell)
  | none :: _ => do
    say promptMark
    throw notText
  | some line :: rest => do
    say promptMark
    let (d, goesOn) ← o.enter d (.ofLine line)
    if goesOn then converse o d rest else say farewell

def inputLines (bytes : List UInt8) : List (Option String) :=
  let (whole, rest) := Stream.cut bytes
  (if rest.isEmpty then whole else whole ++ [rest]).map Text.strict?

def chat (o : Office) (conversation : Option String) : Work Unit := do
  let d ← o.openDialogue (← o.project) conversation
  say (o.greeting d)
  o.converse d (inputLines o.world.input)

def storeFile (o : Office) (path : String) (source : Option String) : Work Unit := do
  let project ← o.project
  let content ← match source with
    | some name => do
      let bytes := (← disk).open? name
      ofOption (bytes.bind Text.strict?) ("reading " ++ name)
    | none => ofOption (Text.strict? o.world.input) notText
  ofExcept (o.ask (.storeFile project path content)).written
  say ("wrote " ++ path ++ " (" ++ toString content.utf8ByteSize ++ " bytes)\n")

def followLogs (o : Office) (node : Int) : Work Unit := do
  let (lines, failure) := (o.ask (.nodeLogs node)).logLines
  say (String.join (lines.map (· ++ "\n")))
  match failure with
  | some f => throw f.message
  | none => pure ()

def download (o : Office) (output : Option String) : Work Unit := do
  let project ← o.project
  let name := output.getD (archiveName project)
  let reply ← ofExcept (o.ask (.archive project)).accepted
  let (disk, _) := (← disk).makeWayTo name
  setDisk disk
  match disk.reach name with
  | .error _ => throw Failure.storage.message
  | .ok dest =>
    let r := Download.save disk dest none reply
    setDisk r.final
    let bytes ← ofExcept r.outcome
    say ("saved " ++ name ++ " (" ++ toString bytes ++ " bytes)\n")

def historyClear (o : Office) : Work Unit := do
  let disk ← disk
  match disk.reach o.transcriptPath with
  | .ok path =>
    if disk.isDir path then throw ("remove transcript " ++ o.transcriptPath)
    else setDisk (disk.drop path)
  | .error _ => pure ()
  say "today's transcript cleared\n"

/-- Copies today's transcript. A file that is copied to itself ends up empty. -/
def historyExport (o : Office) (target : String) : Work Unit := do
  let disk ← disk
  if !disk.has o.transcriptPath then
    throw ("no transcript for today (" ++ o.transcriptPath ++ " does not exist)")
  else
    let copied := (disk.reach target).toOption.bind fun dest =>
      if (disk.reach o.transcriptPath).toOption = some dest then disk.write? dest []
      else (o.transcript disk).copyTo? dest disk
    setDisk (← ofOption copied ("copy " ++ o.transcriptPath ++ " -> " ++ target))
    say ("transcript exported to " ++ target ++ "\n")

def configInit (o : Office) (force : Bool) : Work Unit := do
  let given ← disk
  if given.has o.config && !force then
    throw (o.config ++ " already exists (use --force to overwrite)")
  else
    let (ready, made) := given.makeWayTo o.config
    setDisk ready
    match made.bind fun _ => ready.store o.config (Text.utf8 Settings.defaults.text) with
    | .ok written => setDisk written
    | .error fault => throw fault.message
    say ("wrote default configuration to " ++ o.config ++ "\n")

def perform (o : Office) : Command → Work Unit
  | .chat conversation => o.chat conversation
  | .ask prompt conversation json => o.askOnce prompt conversation json
  | .listConversations => do
    let project ← o.project
    say (Report.conversations project (← ofExcept (o.ask (.conversations project)).conversations))
  | .showConversation id => do
    let project ← o.project
    say (Report.messages (← ofExcept (o.ask (.conversation project id)).conversation))
  | .listCommits => do
    let project ← o.project
    say (Report.commits (← ofExcept (o.ask (.commits project)).commits))
  | .showDiff hash file => do
    let project ← o.project
    say (Report.withLineEnd (← ofExcept (o.ask (.commitDiff project hash file)).diff))
  | .showFile path => do
    let project ← o.project
    say (← ofExcept ((o.ask (.fileContent project path)).file path)).content
  | .storeFile path source => o.storeFile path source
  | .listFiles dir => do
    let project ← o.project
    let entries ← ofExcept (o.ask (.listFiles project dir)).listing
    say (String.join (entries.map Report.file))
  | .followLogs node => o.followLogs node
  | .download output => o.download output
  | .historyPath => say (o.transcriptPath ++ "\n")
  | .historyShow limit => do
    say (Report.history o.world.ahead ((o.transcript (← disk)).recent (max limit 1)))
  | .historyClear => o.historyClear
  | .historyExport path => o.historyExport path
  | .configShow => say o.settings.withoutSecrets.text
  | .configInit force => o.configInit force

end Office

inductive Beginning where
  | ready (office : Office) (notices : List String) (disk : Disk)
  | refused (error : String) (disk : Disk)
  | broken (disk : Disk)

namespace World

def begin (w : World) (i : Invocation) : Beginning :=
  match Settings.load? (w.disk.open? i.config) w.environment.overrides with
  | none => .refused ("loading " ++ i.config) w.disk
  | some settings =>
    match w.disk.makeWay settings.telemetry.logDir with
    | (disk, .error _) => .refused ("creating log dir " ++ settings.telemetry.logDir) disk
    | (disk, .ok ()) =>
      match disk.touch (settings.logPath w.now.date) with
      | .error _ => .broken disk
      | .ok disk =>
        match LogFilter.saidOf? w.environment.logFilter? settings.telemetry.logLevel with
        | none => .broken disk
        | some notices => .ready ⟨w, settings, i.config, i.project⟩ notices disk

def withVariables? (w : World) : Option World :=
  match w.variableFile with
  | some bytes => (w.environment.withFile? bytes).map fun env => { w with environment := env }
  | none => some w

end World

structure Outcome where
  /-- Zero for success, one for an error, two for words that make no command, and 101 where the
  program breaks. -/
  code : Nat
  out : String
  notices : List String
  error : Option String
  disk : Disk

namespace Outcome

def usage : String :=
  "usage: ledgerpilot [--config PATH] [--project ID] [COMMAND]\n\n" ++
  "commands: chat, ask, conversations, commits, files, logs, download, history, config\n"

def broken (d : Disk) : Outcome := ⟨101, "", [], none, d⟩

def ofWork (notices : List String) (p : Except String Unit × Progress) : Outcome :=
  match p.1 with
  | .ok () => ⟨0, p.2.out, notices, none, p.2.disk⟩
  | .error e => ⟨1, p.2.out, notices, some e, p.2.disk⟩

def ofBeginning (b : Beginning) (command : Command) : Outcome :=
  match b with
  | .ready office notices disk => ofWork notices ((office.perform command).run.run ⟨"", disk⟩)
  | .refused error disk => ⟨1, "", [], some error, disk⟩
  | .broken disk => broken disk

end Outcome

def World.run (w : World) (words : List String) : Outcome :=
  match w.withVariables?, CommandLine.ofWords words with
  | none, _ => .broken w.disk
  | _, .version =>
    ⟨0, Invocation.programName ++ " " ++ Invocation.version ++ "\n", [], none, w.disk⟩
  | _, .help => ⟨0, Outcome.usage, [], none, w.disk⟩
  | _, .misuse => ⟨2, "", [], none, w.disk⟩
  | some w, .invoke i => .ofBeginning (w.begin i) i.command

end ChaincodeConsole
