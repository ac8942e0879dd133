import ChaincodeConsole.Command.Run
import ChaincodeConsole.Proofs.Chat.Answers

/-! Asking once. What is printed as JSON is the last reply of the whole conversation. It is the
answer to the prompt wherever there is one, but a message from before where there is none. -/
namespace ChaincodeConsole

namespace Work

theorem bindRuns {x : Work α} {f : α → Work β} {p q : Progress} {a : α}
    (ran : x.run.run p = (.ok a, q)) : (x >>= f).run.run p = (f a).run.run q := by
  simp only [ExceptT.run_bind, StateT.run_bind, ran]
  rfl

theorem diskRuns (p : Progress) : disk.run.run p = (.ok p.disk, p) := rfl

theorem sayRuns (text : String) (p : Progress) :
    (say text).run.run p = (.ok (), { p with out := p.out ++ text }) := rfl

end Work

namespace Office

theorem projectRuns {o : Office} {project : Int}
    (given : o.settings.projectId? o.given = some project) (p : Progress) :
    o.project.run.run p = (.ok project, p) := by
  rw [Office.project, given]
  rfl

theorem openRuns {o : Office} {project : Int} {id : String} {c : Conversation}
    (stored : (o.ask (.conversation project id)).conversation = .ok c) (p : Progress) :
    (o.openDialogue project (some id)).run.run p =
      (.ok ((o.dialogue project p.disk).resume id c), p) := by
  rw [openDialogue, Work.bindRuns (Work.diskRuns p)]
  simp only [stored]
  rfl

theorem keepRuns (o : Office) (d : Dialogue) (p : Progress) :
    ∃ disk, (o.keep d).run.run p = (.ok (), ⟨p.out, disk⟩) := by
  rw [keep, Work.bindRuns (Work.diskRuns p)]
  split
  · exact ⟨_, rfl⟩
  · dsimp only
    split <;> exact ⟨_, rfl⟩

theorem turnRuns {o : Office} {d after : Dialogue} {prompt : String} {out : List Emission}
    (turned : d.turn o.world.now prompt (fun r => o.ask (.chat r))
      (o.ask (.listFiles d.project "")) = some (out, after)) (p : Progress) :
    ∃ disk, (o.turn d prompt).run.run p = (.ok (out, after), ⟨p.out, disk⟩) := by
  obtain ⟨disk, kept⟩ := o.keepRuns after p
  refine ⟨disk, ?_⟩
  simp only [turn, turned, Option.getD_some]
  rw [Work.bindRuns kept]
  rfl

def printed (m : Option Message) : String := ((m.map Message.toJson).getD .null).spread ++ "\n"

theorem askRuns {o : Office} {project : Int} {d after : Dialogue} {conversation : Option String}
    {p : Progress} {prompt : String} {out : List Emission}
    (given : o.settings.projectId? o.given = some project)
    (opened : (o.openDialogue project conversation).run.run p = (.ok d, p))
    (turned : d.turn o.world.now prompt (fun r => o.ask (.chat r))
      (o.ask (.listFiles d.project "")) = some (out, after)) :
    ∃ disk, (o.askOnce prompt conversation true).run.run p =
      (match after.session.lastError with
        | some e => .error ("chat failed: " ++ e)
        | none => .ok (),
      ⟨p.out ++ printed after.lastReply?, disk⟩) := by
  obtain ⟨disk, ran⟩ := turnRuns turned p
  refine ⟨disk, ?_⟩
  rw [askOnce, Work.bindRuns (projectRuns given p), Work.bindRuns opened, Work.bindRuns ran]
  dsimp only
  rw [if_pos rfl, Work.bindRuns (Work.sayRuns _ _)]
  cases after.session.lastError <;> rfl

theorem printedOther (m : Message) : printed (some m) ≠ printed none := by
  intro same
  have first := congrArg (·.toList.head?) same
  simp [printed, Json.spread, Message.toJson, Json.spreadChars] at first

theorem askAnswers {o : Office} {project : Int} {d : Dialogue} {conversation : Option String}
    {p : Progress} (given : o.settings.projectId? o.given = some project)
    (opened : (o.openDialogue project conversation).run.run p = (.ok d, p)) (prompt : String) :
    ∃ result disk, (o.askOnce prompt conversation true).run.run p = (result, ⟨p.out ++
      printed ((Session.answer?
        (o.ask (.chat (Turn.start d o.world.now prompt).dialogue.request)).events).or d.lastReply?),
      disk⟩) := by
  obtain ⟨t, ⟨out, after⟩, ⟨steps, ran, heard⟩, closed, turned⟩ := d.turnReaches o.world.now prompt
    (fun r => o.ask (.chat r)) (o.ask (.listFiles d.project ""))
  obtain ⟨taken, outcome, hears, last⟩ := Turn.closedAnswer d _ _ prompt ran closed
  rw [heard] at hears
  rw [EventStream.heardDelivery hears] at last
  obtain ⟨disk, ran⟩ := askRuns given opened turned
  rw [last] at ran
  exact ⟨_, disk, ran⟩

/-- Asking once prints the answer that the events of the turn open, or else the last reply of the
conversation from before; so what it prints is about this turn exactly if there is an answer or
there was no reply. An interrupt changes which events are taken and nothing else of this. -/
theorem askPrinted {o : Office} {project : Int} {d : Dialogue} {conversation : Option String}
    {p : Progress} (given : o.settings.projectId? o.given = some project)
    (opened : (o.openDialogue project conversation).run.run p = (.ok d, p)) (prompt : String) :
    let events := (o.ask (.chat (Turn.start d o.world.now prompt).dialogue.request)).events
    let answer := Session.answer? events
    answer.isSome = events.any Event.opens ∧
    (∃ result disk, (o.askOnce prompt conversation true).run.run p =
      (result, ⟨p.out ++ printed (answer.or d.lastReply?), disk⟩)) ∧
    (printed (answer.or d.lastReply?) = printed answer ↔
      answer.isSome = true ∨ d.lastReply? = none) ∧
    ∀ steps t ended out after, (Turn.start d o.world.now prompt).run steps = some t →
      t.close? ended = some (out, after) →
      ∃ taken, taken <+: (Stream.Decoder.decodeAll (Turn.received steps)).1 ∧
        after.lastReply? = (Session.answer? taken).or d.lastReply? := by
  intro events answer
  refine ⟨Session.answerOpened events, askAnswers given opened prompt, ?_, ?_⟩
  · cases answer with
    | some m => simp
    | none =>
      cases d.lastReply? with
      | none => simp
      | some m => simpa using printedOther m
  · intro steps t ended out after ran closed
    obtain ⟨taken, outcome, heard, last⟩ := Turn.closedAnswer d _ ended prompt ran closed
    exact ⟨taken, EventStream.heardPrefix heard, last⟩

def desk (answers : Bool) : Office where
  world :=
    { environment := [], variableFile := none, input := [], disk := .empty, today := "2031-07-19"
      ahead := 0, now := Turn.noon, session := .zero, clipboard := fun _ => .ok ()
      network := fun r =>
        if r.method = .post then .ok ⟨200, if answers then [Turn.chunkOne] else [], true⟩
        else .ok ⟨200, [Text.utf8 "\x7b\"messages\":[\x7b\"content\":\"old\"\x7d]\x7d"], true⟩ }
  settings := { Settings.defaults with
    server := { Settings.defaults.server with baseUrl := "http://[::1]" } }
  config := Invocation.defaultConfig
  given := some 3

def deskConversation : Conversation := ⟨"", none, none, none, [⟨"", "old"⟩]⟩

def deskDialogue (answers : Bool) : Dialogue :=
  ((desk answers).dialogue 3 .empty).resume "c" deskConversation

theorem deskStored : ∀ answers,
    ((desk answers).ask (.conversation 3 "c")).conversation = .ok deskConversation := by
  decide +kernel

theorem deskOpened (answers : Bool) :
    ((desk answers).openDialogue 3 (some "c")).run.run ⟨"", .empty⟩ =
      (.ok (deskDialogue answers), ⟨"", .empty⟩) := openRuns (deskStored answers) ⟨"", .empty⟩

theorem deskAnswers : ∀ answers, Session.answer? ((desk answers).ask (.chat
    (Turn.start (deskDialogue answers) (desk answers).world.now "hi").dialogue.request)).events =
      if answers then some (.ofText .assistant "a") else none := by
  decide +kernel

theorem answerPrinted :
    ((desk true).openDialogue 3 (some "c")).run.run ⟨"", .empty⟩ =
      (.ok (deskDialogue true), ⟨"", .empty⟩) ∧
    ∃ result disk, ((desk true).askOnce "hi" (some "c") true).run.run ⟨"", .empty⟩ =
      (result, ⟨printed (some (.ofText .assistant "a")), disk⟩) := by
  obtain ⟨-, ⟨result, disk, ran⟩, -⟩ := askPrinted (o := desk true) rfl (deskOpened true) "hi"
  rw [deskAnswers] at ran
  exact ⟨deskOpened true, result, disk, ran⟩

theorem staleReplyPrinted :
    Session.answer? ((desk false).ask (.chat (Turn.start (deskDialogue false)
      (desk false).world.now "hi").dialogue.request)).events = none ∧
    ∃ result disk, ((desk false).askOnce "hi" (some "c") true).run.run ⟨"", .empty⟩ =
        (result, ⟨printed (some (.ofText .assistant "old")), disk⟩) ∧
      printed (some (.ofText .assistant "old")) ≠ printed none := by
  obtain ⟨result, disk, ran⟩ := askAnswers (o := desk false) rfl (deskOpened false) "hi"
  rw [deskAnswers] at ran
  exact ⟨deskAnswers false, result, disk, ran, printedOther _⟩

end Office

end ChaincodeConsole
