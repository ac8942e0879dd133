import ChaincodeConsole.Command.Places
import ChaincodeConsole.Command.Run
import Std.Time.Zoned

/-!
The program. It finds out what a run can depend on, runs the command, and carries out what came
of it. It makes no connections: each request ends as it does where no network is reached.
-/
namespace ChaincodeConsole.Program

def nodeAt? (p : Path) : IO (Option DiskNode) := do
  let place := (← IO.currentDir) / p.text
  if ← place.isDir then return some .dir
  else if ← place.pathExists then return some (.file (← IO.FS.readBinFile place).toList)
  else return none

def survey (d : Disk) (written : List String) : IO Disk :=
  ((written.flatMap Path.passed).filter (!·.isAbove)).foldlM
    (fun d p => return ((← nodeAt? p).map (d.put p)).getD d) d

def carryOut (before after : Disk) : IO Unit := do
  let here ← IO.currentDir
  for (p, node) in after.nodes.reverse do
    if before.get? p ≠ some node then
      match node with
      | .dir => IO.FS.createDirAll (here / p.text)
      | .file bytes => IO.FS.writeBinFile (here / p.text) ⟨bytes.toArray⟩
  for (p, _) in before.nodes do
    if (after.get? p).isNone then IO.FS.removeFile (here / p.text)

def valuesOf (names : List String) : IO Environment :=
  names.filterMapM fun name => return (← IO.getEnv name).map (name, ·)

def wordsOf (bytes : List UInt8) : List String :=
  let apart (kept : Char → Bool) : List String :=
    ((Text.lossy bytes).map fun c => if kept c then c else ' ').splitOn " "
  (apart Text.isLetterOrNumber ++ apart fun c => Text.isLetterOrNumber c || c == '_').eraseDups

def utcNow : IO Timestamp := do
  let now ← Std.Time.Timestamp.now
  let t := (Std.Time.DateTime.ofTimestamp now .UTC).toPlainDateTime
  return ⟨⟨t.date.year, t.date.month.val.toNat, t.date.day.val.toNat⟩,
    t.time.hour.val.toNat * 60 + t.time.minute.val.toNat, t.time.second.val.toNat,
    t.time.nanosecond.val.toNat⟩

def localDay : IO String := do
  let d ← Std.Time.PlainDate.now
  return String.ofList (Timestamp.dayChars ⟨d.year, d.month.val.toNat, d.day.val.toNat⟩)

def clockAhead : IO Int := do
  let rules ← Std.Time.Database.defaultGetLocalZoneRules
  let zone := rules.findLocalTimeTypeForTimestamp (← Std.Time.Timestamp.now)
  return zone.gmtOffset.second.val / 60

def newName : IO Uuid := do
  let bytes ← IO.getRandomBytes 32
  return .ofRandom fun n => ⟨(bytes.toList.getD n 0).toNat % 16, Nat.mod_lt _ (by decide)⟩

/-- The file `.env` of the working directory or of the nearest directory above that has one. -/
def variableFile? : IO (Option (List UInt8)) := do
  let here ← IO.currentDir
  for depth in List.range (here.components.length + 1) do
    match ← nodeAt? (List.replicate depth ".." ++ [".env"]) with
    | some (.file bytes) => return some bytes
    | _ => pure ()
  return none

def run (words : List String) : IO UInt32 := do
  let variableFile ← variableFile?
  let environment ← valuesOf
    (["LEDGERPILOT_URL", "LEDGERPILOT_TOKEN", "LEDGERPILOT_PROJECT", Environment.logFilterName] ++
      (variableFile.map wordsOf).getD [])
  let world : World := {
    environment := environment, variableFile := variableFile, input := [], disk := .empty
    today := ← localDay, ahead := ← clockAhead, now := ← utcNow, session := ← newName
    network := fun r => .error (.notSent r.url.text)
    clipboard := fun _ => .error "no clipboard" }
  let world ← match CommandLine.ofWords words with
    | .invoke i => do
      let disk ← survey .empty [i.config]
      let overrides := (world.withVariables?.getD world).environment.overrides
      let settings := (Settings.load? (disk.open? i.config) overrides).getD .defaults
      let disk ← survey disk (i.places settings world.today world.now.date)
      let input ← if i.readsInput then (← IO.getStdin).readBinToEnd else pure .empty
      pure { world with disk := disk, input := input.toList }
    | _ => pure world
  let outcome := world.run words
  carryOut world.disk outcome.disk
  IO.print outcome.out
  outcome.notices.forM IO.eprintln
  match outcome.error with
  | some e => IO.eprintln ("Error: " ++ e)
  | none => pure ()
  return UInt32.ofNat outcome.code

end ChaincodeConsole.Program

def main (words : List String) : IO UInt32 := ChaincodeConsole.Program.run words
