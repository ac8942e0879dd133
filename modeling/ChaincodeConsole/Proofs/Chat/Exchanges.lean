import ChaincodeConsole.Chat.Exchange
import ChaincodeConsole.Proofs.Chat.Turns

/-! Turns that are run to their end are runs of steps. Every delivery ends the stream that hears it,
so each of them is closed. -/
namespace ChaincodeConsole

namespace EventStream

theorem runNext {s next last : EventStream} {input : StreamInput} {rest : List StreamInput}
    {events more : List Event} (step : s.step input = some (events, next))
    (later : next.run rest = some (more, last)) :
    s.run (input :: rest) = some (events ++ more, last) := by
  simp [run, step, later]

theorem runSplits {s last : EventStream} {input : StreamInput} {rest : List StreamInput}
    {told : List Event} (ran : s.run (input :: rest) = some (told, last)) :
    ∃ events next more, s.step input = some (events, next) ∧ next.run rest = some (more, last) := by
  obtain ⟨⟨events, next⟩, step, later⟩ := Option.bind_eq_some_iff.mp ran
  obtain ⟨⟨more, _⟩, later, same⟩ := Option.bind_eq_some_iff.mp later
  cases same
  exact ⟨events, next, more, step, later⟩

theorem bodyEnds (chunks : List (List UInt8)) (whole : Bool) (d : Stream.Decoder) :
    ∃ events outcome, (reading d).run (chunks.map .chunk ++ [if whole then .close else .cut]) =
      some (events, .ended outcome) := by
  induction chunks generalizing d with
  | nil => cases whole <;> exact ⟨_, _, rfl⟩
  | cons chunk rest ih =>
    obtain ⟨events, outcome, later⟩ := ih (d.push chunk).2
    exact ⟨_, outcome, runNext rfl later⟩

theorem deliveryEnds (reply : Delivery) :
    ∃ events outcome, waiting.run reply.inputs = some (events, .ended outcome) := by
  have serves := servesInputs reply
  generalize reply.inputs = all at serves ⊢
  cases serves with
  | unsent | refused => exact ⟨_, _, rfl⟩
  | @delivered r =>
    obtain ⟨events, outcome, later⟩ := bodyEnds r.chunks r.complete .start
    exact ⟨_, outcome, runNext rfl later⟩

theorem deliveryGoes (reply : Delivery) : .stop ∉ reply.inputs := by
  have serves := servesInputs reply
  generalize reply.inputs = all at serves ⊢
  cases serves with
  | unsent | refused => simp
  | @delivered r => cases r.complete <;> simp [heardChunks]

end EventStream

namespace Turn

/-- The second turn comes of the first by steps in the course of which the stream hears this. -/
def Reaches (t : Turn) (heard : List StreamInput) (next : Turn) : Prop :=
  ∃ steps, t.run steps = some next ∧ inputs steps = heard

theorem reachesSelf (t : Turn) : t.Reaches [] t := ⟨[], rfl, rfl⟩

theorem reachesTrans {t u v : Turn} {heard more : List StreamInput} (first : t.Reaches heard u)
    (second : u.Reaches more v) : t.Reaches (heard ++ more) v := by
  obtain ⟨front, ran, rfl⟩ := first
  obtain ⟨back, later, rfl⟩ := second
  refine ⟨front ++ back, ?_, List.filterMap_append⟩
  rw [run, List.foldlM_append]
  exact Option.bind_eq_some_iff.mpr ⟨u, ran, later⟩

theorem reachesStep {t next : Turn} {step : TurnStep} (ok : t.step step = some next) :
    t.Reaches step.input?.toList next :=
  ⟨[step], Option.bind_eq_some_iff.mpr ⟨next, ok, rfl⟩, inputsSnoc [] step⟩

theorem reachesSilent {t next last : Turn} {step : TurnStep} {heard : List StreamInput}
    (ok : t.step step = some next) (silent : step.input? = none) (later : next.Reaches heard last) :
    t.Reaches heard last := by
  have first := reachesStep ok
  rw [silent] at first
  exact reachesTrans first later

theorem sendAll {t : Turn} {events : List Event} (unsent : t.unsent = events) :
    t.run (List.replicate events.length .send) =
      some { t with unsent := [], queue := t.queue ++ events } := by
  induction events generalizing t with
  | nil =>
    cases t
    cases unsent
    simp [run]
  | cons e rest ih =>
    have sent : t.step .send = some { t with unsent := rest, queue := t.queue ++ [e] } := by
      simp only [step, unsent]
    have later := ih (t := { t with unsent := rest, queue := t.queue ++ [e] }) rfl
    rw [List.append_assoc] at later
    exact Option.bind_eq_some_iff.mpr ⟨_, sent, later⟩

theorem hearReaches {t : Turn} {input : StreamInput} {events : List Event} {s : EventStream}
    (clear : t.unsent = []) (goes : input ≠ .stop)
    (heard : t.stream.step input = some (events, s)) :
    ∃ next, t.hear input = some next ∧ t.Reaches [input] next ∧ next.unsent = [] ∧
      next.stream = s := by
  have took : t.step (.stream input) = some { t with stream := s, unsent := events } := by
    simp [step, clear, goes, heard]
  have sent := sendAll (t := { t with stream := s, unsent := events }) rfl
  refine ⟨_, Option.bind_eq_some_iff.mpr ⟨_, took, sent⟩, ?_, rfl, rfl⟩
  exact reachesTrans (reachesStep took) ⟨_, sent, by simp [inputs, TurnStep.input?]⟩

theorem hearAllReaches {t : Turn} {heard : List StreamInput} {events : List Event}
    {s : EventStream} (clear : t.unsent = []) (goes : .stop ∉ heard)
    (ran : t.stream.run heard = some (events, s)) :
    ∃ next, heard.foldlM hear t = some next ∧ t.Reaches heard next ∧ next.unsent = [] ∧
      next.stream = s := by
  induction heard generalizing t events with
  | nil =>
    cases ran
    exact ⟨t, rfl, reachesSelf t, clear, rfl⟩
  | cons input rest ih =>
    obtain ⟨now, later⟩ := not_or.mp (List.mem_cons.not.mp goes)
    obtain ⟨events, stream, more, step, ran⟩ := EventStream.runSplits ran
    obtain ⟨next, hears, reaches, clear, rfl⟩ := hearReaches clear (Ne.symm now) step
    obtain ⟨last, all, further, clear, ends⟩ := ih clear later ran
    exact ⟨last, Option.bind_eq_some_iff.mpr ⟨next, hears, all⟩, reachesTrans reaches further,
      clear, ends⟩

theorem deliverReaches {t : Turn} {events : List Event} (queue : t.queue = events) :
    t.Reaches [] (events.foldl take { t with queue := [] }) := by
  induction events generalizing t with
  | nil =>
    cases t
    cases queue
    exact reachesSelf _
  | cons e rest ih =>
    have took : t.step .deliver = some ({ t with queue := rest }.take e) := by
      simp only [step, queue]
    exact reachesSilent took rfl (ih rfl)

theorem takeAllKeeps (t : Turn) (events : List Event) :
    (events.foldl take t).stream = t.stream ∧ (events.foldl take t).unsent = t.unsent ∧
      (events.foldl take t).queue = t.queue := by
  induction events generalizing t with
  | nil => exact ⟨rfl, rfl, rfl⟩
  | cons e rest ih => exact ih (t.take e)

theorem endReloadsReaches (t : Turn) (reloads : List Nat) (listing : Option (List FileEntry)) :
    ∃ files, t.Reaches [] (t.withFiles files) ∧ t.withFiles files =
      reloads.foldl (fun t reload => (t.step (.reloaded reload listing)).getD t) t := by
  induction reloads generalizing t with
  | nil => exact ⟨t.dialogue.files, reachesSelf t, rfl⟩
  | cons reload rest ih =>
    rw [List.foldl_cons]
    cases ended : t.step (.reloaded reload listing) with
    | none => exact ih t
    | some next =>
      obtain ⟨files, -, rfl⟩ := Option.map_eq_some_iff.mp ended
      obtain ⟨last, reaches, same⟩ := ih (t.withFiles files)
      exact ⟨last, reachesSilent ended rfl reaches, same⟩

theorem closeEnds {t : Turn} {outcome : Except Failure Stream.Stats}
    (done : t.stream = .ended outcome) (unsent : t.unsent = []) (queue : t.queue = [])
    (now : Timestamp) : ∃ result, t.close? now = some result := by
  unfold close?
  rw [done, unsent, queue]
  exact ⟨_, rfl⟩

end Turn

theorem Dialogue.turnReaches (d : Dialogue) (now : Timestamp) (prompt : String)
    (reply : ChatRequest → Delivery) (listing : Delivery) :
    ∃ t result, (Turn.start d now prompt).Reaches
        (reply (Turn.start d now prompt).dialogue.request).inputs t ∧
      t.close? now = some result ∧ d.turn now prompt reply listing = some result := by
  obtain ⟨events, outcome, ran⟩ :=
    EventStream.deliveryEnds (reply (Turn.start d now prompt).dialogue.request)
  obtain ⟨t, hears, heard, clear, done⟩ := Turn.hearAllReaches (t := Turn.start d now prompt) rfl
    (EventStream.deliveryGoes _) ran
  have taken := Turn.deliverReaches (t := t) rfl
  obtain ⟨stream, unsent, queue⟩ := Turn.takeAllKeeps { t with queue := [] } t.queue
  obtain ⟨files, reloaded, same⟩ := Turn.endReloadsReaches t.deliverAll
    t.deliverAll.dialogue.files.running listing.listing.toOption
  obtain ⟨result, closed⟩ := Turn.closeEnds (t := t.deliverAll.withFiles files)
    (stream.trans done) (unsent.trans clear) queue now
  refine ⟨_, result, ?_, closed, ?_⟩
  · simpa using Turn.reachesTrans heard (Turn.reachesTrans taken reloaded)
  · refine Option.bind_eq_some_iff.mpr ⟨t, hears, ?_⟩
    rw [Turn.endReloads, ← same]
    exact closed

end ChaincodeConsole
