import ChaincodeConsole.Proofs.Chat.Runs
import Mathlib.Data.List.Nodup

/-! Between two prompts or endings the events of a reply fall into threads, one for each call and
one for the text. No thread is touched by another: what becomes of a call and what is told of it
is up to the events of its id. -/
namespace ChaincodeConsole

namespace Event

def isOf (id : String) : Event → Bool
  | .tool _ e => e.toolCallId == id
  | _ => false

def content? : Event → Option String
  | .reply content => some content
  | _ => none

end Event

namespace Part

theorem foundIff {id : String} {parts : List Part} {c : ToolCall} (tidy : Tidy parts) :
    findCall? id parts = some c ↔ c ∈ calls parts ∧ c.id = id := by
  refine ⟨foundCall, ?_⟩
  rintro ⟨inside, rfl⟩
  cases found : findCall? c.id parts with
  | none => exact absurd rfl (missingCall found c inside)
  | some d =>
    obtain ⟨used, same⟩ := foundCall found
    rw [List.inj_on_of_nodup_map tidy.distinct used inside same]

theorem unnamed {parts : List Part} (tidy : Tidy parts) : findCall? "" parts = none := by
  refine Option.eq_none_iff_forall_ne_some.mpr fun c found => ?_
  obtain ⟨inside, same⟩ := foundCall found
  exact tidy.named c inside same

theorem callsPerm {a b : List Part} (one : Tidy a) (other : Tidy b)
    (same : ∀ id, findCall? id a = findCall? id b) : (calls a).Perm (calls b) := by
  rw [List.perm_ext_iff_of_nodup (.of_map _ one.distinct) (.of_map _ other.distinct)]
  intro c
  have found := same c.id
  constructor <;> intro inside
  · exact ((foundIff other).mp (found ▸ (foundIff one).mpr ⟨inside, rfl⟩)).1
  · exact ((foundIff one).mp (found ▸ (foundIff other).mpr ⟨inside, rfl⟩)).1

end Part

namespace Session

def openCall? (s : Session) (id : String) : Option ToolCall := Part.findCall? id (s.reply.getD [])

def openCalls (s : Session) : List ToolCall := Part.calls (s.reply.getD [])

def openText (s : Session) : String := Part.joinedText (s.reply.getD [])

theorem putOpen (s : Session) (call : ToolCall) (active : Option ToolExecution) :
    (s.putCall call active).openCall? call.id = some call := Part.putCallFound call _

theorem otherCall (s : Session) {e : Event} {id : String} (other : e.isOf id = false) :
    (s.apply e).session.openCall? id = s.openCall? id := by
  cases e with
  | reply content =>
    simp only [apply]
    split
    · rfl
    · exact Part.addTextFound content id _
  | tool phase e =>
    rcases s.toolCases phase e with ⟨-, ignored⟩ | ⟨-, -, call, advanced, applied⟩
    · rw [apply, ignored]
    · rw [apply, applied]
      refine Part.putCallOther ?_ _
      rw [advanced, advancedId]
      simpa [Event.isOf] using other
  | stepLimit message => rfl

theorem ownCall {s t : Session} {e : Event} {id : String} (own : e.isOf id = true)
    (same : s.openCall? id = t.openCall? id) :
    (s.apply e).session.openCall? id = (t.apply e).session.openCall? id ∧
      (s.apply e).completed = (t.apply e).completed := by
  cases e with
  | tool phase e =>
    obtain rfl : e.toolCallId = id := by simpa [Event.isOf] using own
    have call : s.callFor e.toolCallId e.name = t.callFor e.toolCallId e.name :=
      congrArg (Option.getD · _) same
    -- Both sessions find the same call, so either both ignore the event or both take it.
    rcases s.toolCases phase e with ⟨ended, left⟩ | ⟨named, running, c, one, left⟩ <;>
      rcases t.toolCases phase e with ⟨finished, right⟩ | ⟨known, goes, d, two, right⟩
    · rw [apply, apply, left, right]
      exact ⟨same, rfl⟩
    · rw [call] at ended
      simp [known, goes] at ended
    · rw [call] at running
      simp [named, running] at finished
    · obtain rfl : c = d := by rw [one, two, call]
      rw [apply, apply, left, right, ← advancedId s phase, ← one, putOpen, putOpen]
      exact ⟨rfl, rfl⟩
  | _ => cases own

theorem threadAlone {s t : Session} {id : String} (same : s.openCall? id = t.openCall? id)
    (events : List Event) :
    (s.run (events.map .event)).openCall? id =
        (t.run ((events.filter (·.isOf id)).map .event)).openCall? id ∧
      (s.reports (events.map .event)).filter (·.1.isOf id) =
        t.reports ((events.filter (·.isOf id)).map .event) := by
  -- The runs go apart in all but the one call, which is all that its events depend on.
  induction events generalizing s t with
  | nil => exact ⟨same, rfl⟩
  | cons e rest ih =>
    cases own : e.isOf id with
    | true =>
      obtain ⟨call, told⟩ := ownCall own same
      obtain ⟨later, reports⟩ := ih call
      rw [List.filter_cons_of_pos own]
      refine ⟨later, ?_⟩
      simp only [List.map_cons, Session.reports, List.filter_append, act, reports, report?, told]
      congr 1
      cases (t.apply e).completed <;> simp [own]
    | false =>
      have other : (s.apply e).session.openCall? id = t.openCall? id :=
        (otherCall s own).trans same
      obtain ⟨later, reports⟩ := ih other
      rw [List.filter_cons_of_neg (by simp [own])]
      refine ⟨later, ?_⟩
      simp only [List.map_cons, Session.reports, List.filter_append, act, reports, report?]
      cases (s.apply e).completed <;> simp [own]

theorem eventText (s : Session) (e : Event) :
    (s.apply e).session.openText = s.openText ++ (e.content?.getD "") := by
  cases e with
  | reply content =>
    by_cases empty : content = ""
    · simp [apply, empty, Event.content?]
    · simp only [apply, String.isEmpty_iff, if_neg empty]
      exact Part.addTextJoined content _
  | tool phase e =>
    rw [show (Event.tool phase e).content?.getD "" = "" from rfl, String.append_empty, apply]
    rcases s.toolCases phase e with ⟨-, ignored⟩ | ⟨-, -, call, -, applied⟩
    · rw [ignored]
    · rw [applied]
      exact Part.putCallJoined call _
  | stepLimit message => simp [apply, openText, Event.content?]

theorem textAlone (s : Session) (events : List Event) :
    (s.run (events.map .event)).openText =
      s.openText ++ String.join (events.filterMap Event.content?) := by
  induction events generalizing s with
  | nil => simp [run]
  | cons e rest ih =>
    rw [List.map_cons, show s.run (.event e :: rest.map .event) =
      (s.apply e).session.run (rest.map .event) from rfl, ih, eventText]
    cases content : e.content? with
    | none => simp [content]
    | some added => simp [content, String.append_assoc]

theorem actTidy {s : Session} (tidy : Part.Tidy (s.reply.getD [])) (a : Action) :
    Part.Tidy ((s.act a).reply.getD []) := by
  cases a with
  | event e =>
    cases e with
    | reply content =>
      by_cases empty : content = ""
      · simpa [act, apply, empty] using tidy
      · simp only [act, apply, String.isEmpty_iff, if_neg empty]
        exact Part.tidyAddText empty tidy
    | tool phase e =>
      rw [act, apply]
      rcases s.toolCases phase e with ⟨-, ignored⟩ | ⟨named, -, call, advanced, applied⟩
      · rwa [ignored]
      · rw [applied]
        exact Part.tidyPutCall (by rwa [advanced, advancedId]) tidy
    | stepLimit message => exact tidy
  | _ => exact Part.tidyNil

theorem runTidy {s : Session} (tidy : Part.Tidy (s.reply.getD [])) (actions : List Action) :
    Part.Tidy ((s.run actions).reply.getD []) := by
  induction actions generalizing s with
  | nil => exact tidy
  | cons a rest ih => exact ih (actTidy tidy a)

/-- Each call of the open reply is what its own thread makes of it, and the text that is added is
that of the text events. So two interleavings of the same threads leave the same calls, with the
same reports of each, and the same text. -/
theorem threadsApart (history : List Message) (actions : List Action) (events : List Event) :
    let s := (ofHistory history).run actions
    let t := s.run (events.map .event)
    (∀ id, t.openCall? id = (s.run ((events.filter (·.isOf id)).map .event)).openCall? id ∧
      (s.reports (events.map .event)).filter (·.1.isOf id) =
        s.reports ((events.filter (·.isOf id)).map .event)) ∧
    t.openText = s.openText ++ String.join (events.filterMap Event.content?) ∧
    ∀ others : List Event,
      (∀ id, id ≠ "" → others.filter (·.isOf id) = events.filter (·.isOf id)) →
      others.filterMap Event.content? = events.filterMap Event.content? →
      (∀ id, id ≠ "" → (s.run (others.map .event)).openCall? id = t.openCall? id ∧
        (s.reports (others.map .event)).filter (·.1.isOf id) =
          (s.reports (events.map .event)).filter (·.1.isOf id)) ∧
      (s.run (others.map .event)).openCalls.Perm t.openCalls ∧
      (s.run (others.map .event)).openText = t.openText := by
  intro s t
  refine ⟨fun id => threadAlone rfl events, textAlone s events, ?_⟩
  intro others threads texts
  have calls (id : String) (named : id ≠ "") :
      (s.run (others.map .event)).openCall? id = t.openCall? id ∧
        (s.reports (others.map .event)).filter (·.1.isOf id) =
          (s.reports (events.map .event)).filter (·.1.isOf id) := by
    obtain ⟨call, reports⟩ := threadAlone (rfl : s.openCall? id = s.openCall? id) others
    obtain ⟨same, told⟩ := threadAlone (rfl : s.openCall? id = s.openCall? id) events
    rw [threads id named] at call reports
    exact ⟨call.trans same.symm, reports.trans told.symm⟩
  have begun : Part.Tidy ((ofHistory history).reply.getD []) := Part.tidyNil
  have tidy (more : List Event) : Part.Tidy ((s.run (more.map .event)).reply.getD []) :=
    runTidy (runTidy begun actions) (more.map .event)
  refine ⟨calls, Part.callsPerm (tidy others) (tidy events) fun id => ?_, ?_⟩
  · by_cases named : id = ""
    · -- No call goes without a name, so there is none to be found.
      rw [named, Part.unnamed (tidy others), Part.unnamed (tidy events)]
    · exact (calls id named).1
  · rw [textAlone s others, textAlone s events, texts]

theorem startsSwapped :
    (∀ id, id ≠ "" →
      ([.tool .start (.ofId "b"), .reply "x", .tool .start (.ofId "a")] : List Event).filter
          (·.isOf id) =
        ([.tool .start (.ofId "a"), .reply "x", .tool .start (.ofId "b")] : List Event).filter
          (·.isOf id)) ∧
      (((ofHistory []).run [.submit "q"]).run
        (([.tool .start (.ofId "b"), .reply "x", .tool .start (.ofId "a")] : List Event).map
          .event)).openText =
      (((ofHistory []).run [.submit "q"]).run
        (([.tool .start (.ofId "a"), .reply "x", .tool .start (.ofId "b")] : List Event).map
          .event)).openText := by
  have threads (id : String) :
      ([.tool .start (.ofId "b"), .reply "x", .tool .start (.ofId "a")] : List Event).filter
          (·.isOf id) =
        ([.tool .start (.ofId "a"), .reply "x", .tool .start (.ofId "b")] : List Event).filter
          (·.isOf id) := by
    by_cases first : id = "a"
    · subst first
      decide
    · by_cases second : id = "b"
      · subst second
        decide
      · simp [Event.isOf, ToolEvent.ofId, Ne.symm first, Ne.symm second]
  exact ⟨fun id _ => threads id,
    ((threadsApart [] [.submit "q"]
      [.tool .start (.ofId "a"), .reply "x", .tool .start (.ofId "b")]).2.2
      [.tool .start (.ofId "b"), .reply "x", .tool .start (.ofId "a")]
      (fun id _ => threads id) rfl).2.2⟩

end Session
end ChaincodeConsole
