import ChaincodeConsole.Proofs.Chat.Turns

/-! A whole chat: turns, and between them what else may be asked for. Reloads of the project's files
go on between turns. What is told of a run is told step by step, and a law of what was told and the
chat that each step keeps is a law of every run. -/
namespace ChaincodeConsole

theorem Dialogue.showFilesEnds (d : Dialogue) (answer : Except Failure (List FileEntry)) :
    ∃ terminal, (d.showFiles answer).2 =
      { d with files := (d.files.refresh answer).2, terminal := terminal } := by
  unfold showFiles writeListing
  dsimp only
  split <;> exact ⟨_, rfl⟩

inductive Chat where
  | idle (d : Dialogue)
  | busy (t : Turn)

namespace Chat

inductive Step where
  | resume (id : String) (conversation : Conversation)
  | reset
  | prompt (now : Timestamp) (text : String)
  | turn (step : TurnStep)
  | close (now : Timestamp)
  | reloaded (reload : Nat) (outcome : Option (List FileEntry))
  | files (answer : Except Failure (List FileEntry))

def dialogue : Chat → Dialogue
  | .idle d => d
  | .busy t => t.dialogue

def step : Chat → Step → Option Chat
  | .idle d, .resume id conversation => some (.idle (d.resume id conversation))
  | .idle d, .reset => some (.idle d.reset)
  | .idle d, .prompt now text => some (.busy (Turn.start d now text))
  | .idle d, .reloaded reload outcome =>
    (d.files.endReload reload outcome).map fun files => .idle { d with files := files }
  | .idle d, .files answer =>
    if d.files.isSettled then some (.idle (d.showFiles answer).2) else none
  | .busy t, .turn step => (t.step step).map .busy
  | .busy t, .close now => (t.close? now).map fun (_, d) => .idle d
  | _, _ => none

def run (c : Chat) (steps : List Step) : Option Chat := steps.foldlM step c

inductive Moved : Chat → Step → Chat → Prop where
  | resume (d : Dialogue) (id : String) (conversation : Conversation) :
      Moved (.idle d) (.resume id conversation) (.idle (d.resume id conversation))
  | reset (d : Dialogue) : Moved (.idle d) .reset (.idle d.reset)
  | prompt (d : Dialogue) (now : Timestamp) (text : String) :
      Moved (.idle d) (.prompt now text) (.busy (Turn.start d now text))
  | turn {t next : Turn} {step : TurnStep} (moved : t.Moved step next) :
      Moved (.busy t) (.turn step) (.busy next)
  | close (t : Turn) (now : Timestamp) (outcome : Except Failure Stream.Stats)
      (terminal : Terminal) : Moved (.busy t) (.close now)
        (.idle ({ t.dialogue with
          session := t.dialogue.session.act (Turn.ending outcome)
          terminal := terminal }.record now))
  | reloaded (d : Dialogue) {reload : Nat} {outcome : Option (List FileEntry)} {files : FileList}
      (ended : d.files.endReload reload outcome = some files) :
      Moved (.idle d) (.reloaded reload outcome) (.idle { d with files := files })
  | files {d : Dialogue} (answer : Except Failure (List FileEntry)) (terminal : Terminal)
      (settled : d.files.isSettled = true) : Moved (.idle d) (.files answer)
        (.idle { d with files := (d.files.refresh answer).2, terminal := terminal })

theorem stepMoved {c next : Chat} {step : Step} (ok : c.step step = some next) :
    c.Moved step next := by
  unfold Chat.step at ok
  split at ok
  · cases ok
    exact .resume _ _ _
  · cases ok
    exact .reset _
  · cases ok
    exact .prompt _ _ _
  · obtain ⟨files, ended, rfl⟩ := Option.map_eq_some_iff.mp ok
    exact .reloaded _ ended
  · split at ok
    · rename_i d answer settled
      obtain ⟨terminal, ends⟩ := d.showFilesEnds answer
      cases ok
      exact ends ▸ .files answer terminal settled
    · cases ok
  · obtain ⟨t, moved, rfl⟩ := Option.map_eq_some_iff.mp ok
    exact .turn (Turn.stepMoved moved)
  · obtain ⟨⟨out, d⟩, closed, rfl⟩ := Option.map_eq_some_iff.mp ok
    obtain ⟨outcome, terminal, -, -, -, rfl⟩ := Turn.closeCases closed
    exact .close _ _ outcome terminal
  · cases ok

def log (tell : Chat → Step → Chat → List α) (c : Chat) : List Step → List α
  | [] => []
  | step :: rest =>
    match c.step step with
    | none => []
    | some next => tell c step next ++ next.log tell rest

theorem logSnoc {tell : Chat → Step → Chat → List α} {c last next : Chat} {steps : List Step}
    {step : Step} (ran : c.run steps = some last) (moved : last.step step = some next) :
    c.log tell (steps ++ [step]) = c.log tell steps ++ tell last step next := by
  induction steps generalizing c with
  | nil =>
    cases ran
    simp [log, moved]
  | cons first rest ih =>
    obtain ⟨second, began, later⟩ := Option.bind_eq_some_iff.mp ran
    simp only [List.cons_append, log, began]
    rw [ih later, List.append_assoc]

theorem runLaw {tell : Chat → Step → Chat → List α} (law : List α → Chat → Prop)
    (kept : ∀ {told c step next}, law told c → c.Moved step next →
      law (told ++ tell c step next) next)
    {told : List α} {c last : Chat} {steps : List Step} (first : law told c)
    (ran : c.run steps = some last) : law (told ++ c.log tell steps) last := by
  induction steps generalizing told c with
  | nil =>
    cases ran
    simpa [log] using first
  | cons step rest ih =>
    obtain ⟨next, moved, later⟩ := Option.bind_eq_some_iff.mp ran
    simp only [log, moved]
    rw [← List.append_assoc]
    exact ih (kept first (stepMoved moved)) later

end Chat
end ChaincodeConsole
