import ChaincodeConsole.Proofs.Chat.Courses
import ChaincodeConsole.Proofs.Transcript.Writing
import Mathlib.Data.List.Forall2

/-! What a chat writes into its transcript. At all times the messages that count as recorded are
the settled ones, also after a conversation has been taken over. So each message is written when a
turn seals it, if there is anything in it to keep. -/
namespace ChaincodeConsole

structure TurnRecord.Tells (r : TurnRecord) (session : Uuid) (time : Option Timestamp)
    (m : Message) : Prop where
  session : r.session = session
  timestamp : time = some r.timestamp
  role : r.role = m.role
  content : r.content = String.join (m.parts.filterMap Part.text?)
  tools : r.tools.map (fun t => (t.name, t.status, t.error)) =
    (m.parts.filterMap Part.call?).map fun c => (c.name, c.status, c.error)

namespace Transcript

/-- The bytes of the last file are those of the first and a line for each message that was told of
and says anything. Each line reads as the record of its message, if its time can be read. -/
structure Writes (first : Transcript) (told : List (Option Timestamp × Message))
    (last : Transcript) (records : List TurnRecord) : Prop where
  each : List.Forall₂ (fun p r => r.Tells first.session p.1 p.2)
    (told.filter (·.2.hasContent)) records
  session : last.session = first.session
  file : last.file = if records = [] then first.file
    else some (first.file.getD [] ++ records.flatMap fun r => Text.utf8 r.line ++ [10])
  lines : ∀ r ∈ records, 10 ∉ Text.utf8 r.line ∧
    (Timestamp.ofText r.timestamp.text = .ok r.timestamp →
      lineRecord? (Text.utf8 r.line) = some r)

theorem messageTold (session : Uuid) (now : Timestamp) (m : Message) :
    (TurnRecord.ofMessage session now m).Tells session (some now) m where
  session := rfl
  timestamp := rfl
  role := rfl
  content := rfl
  tools := by
    rw [TurnRecord.ofMessage, List.map_map]
    rfl

theorem writesAll {first : Transcript} {told : List (Option Timestamp × Message)}
    {records : List TurnRecord} (each : List.Forall₂ (fun p r => r.Tells first.session p.1 p.2)
      (told.filter (·.2.hasContent)) records) :
    first.Writes told (first.addAll records) records where
  each := each
  session := addAllSession first records
  file := addAllFile first records
  lines r _ := ⟨recordPlain r, fun dated => (recordRead r dated).2⟩

theorem writesMore {first last : Transcript} {told : List (Option Timestamp × Message)}
    {records : List TurnRecord} (law : first.Writes told last records) (now : Timestamp)
    (messages : List Message) :
    ∃ more, first.Writes (told ++ messages.map (some now, ·))
      (messages.foldl (·.append now ·) last) (records ++ more) := by
  have whole : last = first.addAll records := by
    cases last
    rw [Transcript.mk.injEq]
    exact ⟨law.session.trans (addAllSession ..).symm, law.file.trans (addAllFile ..).symm⟩
  refine ⟨(messages.filter Message.hasContent).map (.ofMessage first.session now), ?_⟩
  rw [appendNow, law.session, whole, ← addAllAppend]
  refine writesAll ?_
  rw [List.filter_append, List.filter_map]
  refine List.rel_append law.each ?_
  rw [List.forall₂_map_left_iff, List.forall₂_map_right_iff]
  exact List.forall₂_same.mpr fun m _ => messageTold first.session now m

end Transcript

namespace Dialogue

structure Logged (first : Transcript) (told : List (Option Timestamp × Message))
    (d : Dialogue) : Prop where
  written : ∃ last records, d.transcript = some last ∧ first.Writes told last records
  recorded : d.recorded = d.session.settled.length

theorem loggedSame {first : Transcript} {told : List (Option Timestamp × Message)}
    {d e : Dialogue} (law : Logged first told d) (transcript : e.transcript = d.transcript)
    (recorded : e.recorded = d.recorded) (settled : e.session.settled = d.session.settled) :
    Logged first told e :=
  ⟨transcript ▸ law.written, by rw [recorded, settled, law.recorded]⟩

theorem loggedRecord {first : Transcript} {told : List (Option Timestamp × Message)}
    {d : Dialogue} (law : Logged first told d) {s : Session}
    (grown : d.session.settled <+: s.settled) (terminal : Terminal) (now : Timestamp) :
    Logged first (told ++ (s.settled.drop d.session.settled.length).map (some now, ·))
      ({ d with session := s, terminal := terminal }.record now) := by
  obtain ⟨⟨last, records, kept, written⟩, count⟩ := law
  have within := grown.length_le
  constructor
  · obtain ⟨more, goesOn⟩ := Transcript.writesMore written now
      (s.settled.drop d.session.settled.length)
    refine ⟨_, _, ?_, goesOn⟩
    simp only [record, kept, count]
  · simp only [record, kept, count, List.length_drop]
    omega

end Dialogue

namespace Turn

theorem movedKeeps {t next : Turn} {step : TurnStep} (moved : t.Moved step next) :
    next.dialogue.transcript = t.dialogue.transcript ∧
      next.dialogue.recorded = t.dialogue.recorded ∧
      next.dialogue.session.settled = t.dialogue.session.settled := by
  cases moved with
  | @deliver e rest next => exact ⟨rfl, rfl, (Session.eventsKeep t.dialogue.session [e]).1⟩
  | stream | send | preview | interrupt | reloaded | receive => exact ⟨rfl, rfl, rfl⟩

end Turn

namespace Chat

def Step.clock? : Step → Option Timestamp
  | .prompt now _ | .close now => some now
  | _ => none

def Step.inTurn : Step → Bool
  | .prompt .. | .turn _ | .close _ => true
  | _ => false

def sealing (c : Chat) (step : Step) (next : Chat) : List (Option Timestamp × Message) :=
  if step.inTurn then
    (next.dialogue.session.settled.drop c.dialogue.session.settled.length).map (step.clock?, ·)
  else []

def IsClosed : Chat → Prop
  | .idle d => d.session.reply = none
  | .busy _ => True

theorem settledGrows {c next : Chat} {step : Step} (moved : c.Moved step next)
    (turn : step.inTurn = true) :
    c.dialogue.session.settled <+: next.dialogue.session.settled := by
  cases moved with
  | resume | reset | reloaded | files => cases turn
  | prompt d now text =>
    rw [dialogue, dialogue, Turn.start, Dialogue.recordSession]
    exact ⟨_, (List.append_assoc ..).symm⟩
  | turn moved => exact (Turn.movedKeeps moved).2.2 ▸ List.prefix_refl _
  | close t now outcome terminal =>
    rw [dialogue, dialogue, Dialogue.recordSession, (Turn.endingCloses _ outcome).1]
    exact List.prefix_append _ _

theorem loggedStep {first : Transcript} {told : List (Option Timestamp × Message)} {c next : Chat}
    {step : Step} (law : c.dialogue.Logged first told ∧ c.IsClosed) (moved : c.Moved step next) :
    next.dialogue.Logged first (told ++ sealing c step next) ∧ next.IsClosed := by
  obtain ⟨law, closed⟩ := law
  have quiet (law : next.dialogue.Logged first told) (silent : sealing c step next = []) :
      next.dialogue.Logged first (told ++ sealing c step next) := by
    rwa [silent, List.append_nil]
  have grown := settledGrows moved
  cases moved with
  | resume d id conversation => exact ⟨quiet ⟨law.written, rfl⟩ rfl, rfl⟩
  | reset d => exact ⟨quiet ⟨law.written, rfl⟩ rfl, rfl⟩
  | reloaded d ended => exact ⟨quiet (Dialogue.loggedSame law rfl rfl rfl) rfl, closed⟩
  | files answer terminal settled =>
    exact ⟨quiet (Dialogue.loggedSame law rfl rfl rfl) rfl, closed⟩
  | prompt d now text =>
    rw [dialogue, dialogue, Turn.start, Dialogue.recordSession] at grown
    have logged := Dialogue.loggedRecord law (grown rfl) d.terminal now
    refine ⟨?_, trivial⟩
    simpa [sealing, Step.inTurn, Step.clock?, Turn.start, dialogue] using logged
  | @turn t next step moved =>
    obtain ⟨transcript, count, settled⟩ := Turn.movedKeeps moved
    refine ⟨quiet (Dialogue.loggedSame law transcript count settled) ?_, trivial⟩
    simp [sealing, dialogue, settled]
  | close t now outcome terminal =>
    rw [dialogue, dialogue, Dialogue.recordSession] at grown
    have logged := Dialogue.loggedRecord law (grown rfl) terminal now
    constructor
    · simpa [sealing, Step.inTurn, Step.clock?, dialogue] using logged
    · rw [IsClosed, Dialogue.recordSession]
      exact (Turn.endingCloses _ outcome).2.1

/-- After a run each message that its turns have sealed and that says anything has its record in the
file, in their order, and nothing that is sealed is still to be recorded. -/
theorem sealedRecorded (project : Int) (options : TerminalOptions) (first : Transcript)
    (steps : List Step) (c : Chat)
    (ran : (idle (.start project options (some first))).run steps = some c) :
    c.dialogue.Logged first ((idle (.start project options (some first))).log sealing steps) ∧
      ∀ d, c = .idle d → d.session.messages = d.session.settled := by
  have nothing : first.Writes [] first [] := @Transcript.writesAll first [] [] .nil
  have start : (idle (.start project options (some first))).dialogue.Logged first [] ∧
      (idle (.start project options (some first))).IsClosed :=
    ⟨⟨⟨first, [], rfl, nothing⟩, rfl⟩, rfl⟩
  obtain ⟨logged, closed⟩ :=
    runLaw (fun told c => c.dialogue.Logged first told ∧ c.IsClosed) loggedStep start ran
  refine ⟨logged, ?_⟩
  rintro d rfl
  exact NotedSession.messagesSettled closed

def today : Transcript := ⟨.zero, none⟩

def oldConversation : Conversation :=
  ⟨"c", none, none, none, [⟨"user", "hi"⟩, ⟨"assistant", " "⟩]⟩

def failedTool : List UInt8 :=
  Text.utf8 ("data: \x7b\"type\":\"llm\",\"content\":\"a\"\x7d\n" ++
    "data: \x7b\"type\":\"tool_result\",\"toolCallID\":\"1\",\"name\":\"run\"," ++
    "\"error\":\"no\"\x7d\n")

-- A conversation is taken over and goes on. A call fails in the reply, which is stopped then.
def resumedSteps : List Step :=
  [.resume "c" oldConversation, .prompt Turn.noon "q"] ++
    [.stream .accepted, .stream (.chunk failedTool), .send, .deliver, .send, .deliver, .interrupt,
      .stream .stop].map .turn ++ [.close Turn.noon, .reset]

def lineOf (members : String) : List UInt8 :=
  Text.utf8Chars ("\x7b\"session\":\"00000000-0000-0000-0000-000000000000\",".toList ++
    members.toList ++ ",\"timestamp\":\"2031-07-19T12:00:00Z\"\x7d\n".toList)

def resumedFile : List UInt8 :=
  lineOf "\"role\":\"user\",\"content\":\"q\"" ++
    lineOf ("\"role\":\"assistant\",\"content\":\"a\",\"tools\":[\x7b\"name\":\"run\"," ++
      "\"status\":\"failed\",\"error\":\"no\"\x7d]")

theorem resumedRecorded : ∃ c,
    (idle (.start 3 ⟨false, false, true, 20⟩ (some today))).run resumedSteps = some c ∧
      (c.dialogue.Logged today
        ((idle (.start 3 ⟨false, false, true, 20⟩ (some today))).log sealing resumedSteps) ∧
        ∀ d, c = .idle d → d.session.messages = d.session.settled) ∧
      c.dialogue.transcript = some ⟨.zero, some resumedFile⟩ := by
  have written : ((idle (.start 3 ⟨false, false, true, 20⟩ (some today))).run resumedSteps).map
      (·.dialogue.transcript) = some (some ⟨.zero, some resumedFile⟩) := by decide +kernel
  obtain ⟨c, ran, file⟩ := Option.map_eq_some_iff.mp written
  exact ⟨c, ran, sealedRecorded 3 ⟨false, false, true, 20⟩ today resumedSteps c ran, file⟩

end Chat
end ChaincodeConsole
