import ChaincodeConsole.Proofs.Chat.Threads

/-! What an event does to a session and what is told of it. An event that is ignored leaves all as
it was; any other changes the part it is about or adds one at the end of the open reply, and
nothing else but the tool that is shown as active and the mark of the step budget. -/
namespace ChaincodeConsole

namespace Part

def lastText? (parts : List Part) : Option String := parts.getLast?.bind text?

def textPlace (parts : List Part) : Nat :=
  if (lastText? parts).isSome then parts.length - 1 else parts.length

def callPlace (id : String) (parts : List Part) : Nat :=
  parts.findIdx fun p => p.call?.any (·.id == id)

structure Exchanged (earlier later : List Part) (place : Nat) (p : Part) : Prop where
  within : place ≤ earlier.length
  there : later[place]? = some p
  others : ∀ j, j ≠ place → later[j]? = earlier[j]?

theorem exchangedPart (front back : List Part) (p q : Part) :
    Exchanged (front ++ p :: back) (front ++ q :: back) front.length q where
  within := by simp
  there := by simp
  others j other := by rw [exchangedAt front back p q j, if_neg other]

theorem exchangedEnd (parts : List Part) (q : Part) :
    Exchanged parts (parts ++ [q]) parts.length q where
  within := Nat.le_refl _
  there := by simp
  others j other := by rw [addedAt, if_neg other]

theorem addTextExchanged (content : String) (parts : List Part) :
    Exchanged parts (addText content parts) (textPlace parts)
      (.text ((lastText? parts).getD "" ++ content)) := by
  rcases addTextCases content parts with ⟨front, t, split, added⟩ | ⟨other, added⟩
  · have last : lastText? parts = some t := by simp [lastText?, split, text?]
    have place : textPlace parts = front.length := by
      rw [textPlace, last, split]
      simp
    rw [added, place, last, split]
    exact exchangedPart front [] _ _
  · have last : lastText? parts = none := by
      rw [List.getLast?_map] at other
      rw [lastText?, Option.bind_eq_none_iff]
      intro p ends
      rw [ends] at other
      cases p with
      | text t => exact absurd rfl other
      | tool c => rfl
    have place : textPlace parts = parts.length := by
      rw [textPlace, last]
      rfl
    rw [added, place, last, Option.getD_none, String.empty_append]
    exact exchangedEnd parts _

theorem callPlaceMissing {id : String} {parts : List Part} (missing : findCall? id parts = none) :
    callPlace id parts = parts.length := by
  rw [callPlace, List.findIdx_eq_length]
  intro p inside
  cases p with
  | text t => rfl
  | tool c =>
    have used : c ∈ calls parts := List.mem_filterMap.mpr ⟨_, inside, rfl⟩
    simpa [call?] using missingCall missing c used

theorem putCallExchanged (call : ToolCall) (parts : List Part) :
    Exchanged parts (putCall call parts) (callPlace call.id parts) (.tool call) := by
  rcases putCallCases call parts with ⟨front, old, back, split, same, first, put⟩ | ⟨missing, put⟩
  · have place : callPlace call.id parts = front.length := by
      have before := callPlaceMissing first
      rw [callPlace] at before
      rw [callPlace, split, List.findIdx_append, before, if_neg (Nat.lt_irrefl _)]
      simp [call?, same, List.findIdx_cons]
    rw [put, place, split]
    exact exchangedPart front back _ _
  · rw [put, callPlaceMissing missing]
    exact exchangedEnd parts _

end Part

namespace Session

/-- An event without content, one without an id, and one of a call that has ended in the reply that
is open. -/
def Unheard (s : Session) : Event → Prop
  | .reply content => content = ""
  | .tool _ e => e.toolCallId = "" ∨ ∃ parts call, s.reply = some parts ∧ call ∈ Part.calls parts ∧
      call.id = e.toolCallId ∧ (call.status = .completed ∨ call.status = .failed)
  | .stepLimit _ => False

structure Alters (s t : Session) (place : Nat) (p : Part) : Prop where
  kept : t = { s with reply := t.reply, active := t.active }
  reply : ∃ parts, t.messages = s.settled ++ [⟨.assistant, parts⟩] ∧
    t.sealedAt s.settled.length = false ∧ Part.Exchanged (s.reply.getD []) parts place p

structure Tells (s : Session) (e : Event) (a : Applied) : Prop where
  ignored : a.change = .ignored ↔ s.Unheard e
  untouched : a.change = .ignored → a.session = s ∧ a.completed = none
  text : ∀ delta, a.change = .text delta → e = .reply delta ∧ a.session.active = s.active ∧
    s.Alters a.session (Part.textPlace (s.reply.getD []))
      (.text ((Part.lastText? (s.reply.getD [])).getD "" ++ delta))
  tool : ∀ id phase, a.change = .tool id phase → ∃ event call,
    e = .tool phase event ∧ event.toolCallId = id ∧
    call = (s.callFor id event.name).advance phase event ∧
    s.Alters a.session (Part.callPlace id (s.reply.getD [])) (.tool call) ∧
    a.session.findCall? id = some call
  limit : ∀ message, a.change = .stepsExhausted message → ∃ given, e = .stepLimit given ∧
    message = given.filter (!Text.blank ·) ∧
    a.session = { s with active := none, stepsExhausted := true }

theorem altersReply {s t : Session} {parts : List Part} {place : Nat} {p : Part}
    (kept : t = { s with reply := t.reply, active := t.active }) (opened : t.reply = some parts)
    (exchanged : Part.Exchanged (s.reply.getD []) parts place p) : s.Alters t place p := by
  have settled : t.settled = s.settled := by rw [kept]
  refine ⟨kept, parts, ?_, by simp [sealedAt, settled], exchanged⟩
  rw [NotedSession.messagesOfReply opened, settled]

theorem endedIff {s : Session} (tidy : Part.Tidy (s.reply.getD [])) (id name : String) :
    (s.callFor id name).status.isTerminal = true ↔ ∃ parts call, s.reply = some parts ∧
      call ∈ Part.calls parts ∧ call.id = id ∧
      (call.status = .completed ∨ call.status = .failed) := by
  have terminal (call : ToolCall) :
      call.status.isTerminal = true ↔ call.status = .completed ∨ call.status = .failed := by
    cases call.status <;> simp [ToolStatus.isTerminal]
  constructor
  · intro ended
    rcases NotedSession.callForCases s id name with found | fresh
    · obtain ⟨used, named⟩ := Part.foundCall found
      cases opened : s.reply with
      | none =>
        rw [opened] at used
        cases used
      | some parts =>
        rw [opened] at used
        exact ⟨parts, _, rfl, used, named, (terminal _).mp ended⟩
    · rw [fresh] at ended
      cases ended
  · rintro ⟨parts, call, opened, used, named, ended⟩
    -- Only one call has the id, so it is the one that is found.
    have found := (Part.foundIff tidy).mpr ⟨by rw [opened]; exact used, named⟩
    rw [callFor, found]
    exact (terminal call).mpr ended

theorem ignoredTells {s : Session} {e : Event} (unheard : s.Unheard e) :
    s.Tells e ⟨s, .ignored, none⟩ where
  ignored := iff_of_true rfl unheard
  untouched _ := ⟨rfl, rfl⟩
  text _ told := Change.noConfusion told
  tool _ _ told := Change.noConfusion told
  limit _ told := Change.noConfusion told

theorem textTells (s : Session) (content : String) :
    s.Tells (.reply content) (s.apply (.reply content)) := by
  by_cases empty : content = ""
  · have applied : s.apply (.reply content) = ⟨s, .ignored, none⟩ := by simp [apply, empty]
    rw [applied]
    exact ignoredTells empty
  · have applied : s.apply (.reply content) = ⟨s.addText content, .text content, none⟩ := by
      simp [apply, empty]
    rw [applied]
    exact {
      ignored := by simp [Unheard, empty]
      untouched := fun told => Change.noConfusion told
      text := by
        rintro delta ⟨⟩
        exact ⟨rfl, rfl, altersReply rfl rfl (Part.addTextExchanged content _)⟩
      tool := fun _ _ told => Change.noConfusion told
      limit := fun _ told => Change.noConfusion told }

theorem toolTells {s : Session} (tidy : Part.Tidy (s.reply.getD [])) (phase : Phase)
    (e : ToolEvent) : s.Tells (.tool phase e) (s.apply (.tool phase e)) := by
  have unheard : s.Unheard (.tool phase e) ↔
      e.toolCallId = "" ∨ (s.callFor e.toolCallId e.name).status.isTerminal = true := by
    rw [endedIff tidy, Unheard]
  rw [apply]
  rcases s.toolCases phase e with ⟨ignored, applied⟩ | ⟨named, running, call, advanced, applied⟩
  · rw [applied]
    exact ignoredTells (unheard.mpr ignored)
  · rw [applied]
    have about : call.id = e.toolCallId := by rw [advanced, advancedId]
    exact {
      ignored := by simp [unheard, named, running]
      untouched := fun told => Change.noConfusion told
      text := fun _ told => Change.noConfusion told
      tool := by
        rintro id phase ⟨⟩
        refine ⟨e, call, rfl, rfl, advanced, ?_, ?_⟩
        · rw [← about]
          exact altersReply rfl rfl (Part.putCallExchanged call _)
        · rw [← about]
          exact ((NotedSession.lastReply rfl).2.2 call.id).trans (Part.putCallFound call _)
      limit := fun _ told => Change.noConfusion told }

theorem changesTell (history : List Message) (actions : List Action) (e : Event) :
    let s := (ofHistory history).run actions
    s.Tells e (s.apply e) := by
  intro s
  cases e with
  | reply content => exact textTells s content
  | tool phase e =>
    have begun : Part.Tidy ((ofHistory history).reply.getD []) := Part.tidyNil
    exact toolTells (runTidy begun actions) phase e
  | stepLimit given =>
    exact {
      ignored := by simp [apply, Unheard]
      untouched := fun told => Change.noConfusion told
      text := fun _ told => Change.noConfusion told
      tool := fun _ _ told => Change.noConfusion told
      limit := by
        rintro message ⟨⟩
        exact ⟨given, rfl, rfl, rfl⟩ }

end Session
end ChaincodeConsole
