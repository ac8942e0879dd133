import ChaincodeConsole.Proofs.Chat.Fragments
import ChaincodeConsole.Proofs.Chat.Reports
import ChaincodeConsole.Proofs.Stream.Payloads

/-! What is shown of the arguments of a call is read from their text, also where it came with the
value and was not read: the text of a value that was decoded stands for that value. -/
namespace ChaincodeConsole

def Event.argsFloatFree : Event → Bool
  | .tool _ e => e.args.all Json.floatFree
  | _ => true

namespace ToolCall

theorem blankText (text : String) : (Text.trimChars text.toList).isEmpty = Text.blank text := by
  rw [Bool.eq_iff_iff, List.isEmpty_iff, Text.trimNil, Text.blank]

theorem placeholderIff (text : String) :
    isPlaceholder text = true ↔ Text.blank text = true ∨ Text.trim text = "\x7b\x7d" := by
  have braces : Text.trim text = "\x7b\x7d" ↔ Text.trimChars text.toList = ['{', '}'] := by
    rw [Text.trim, ← String.toList_inj, String.toList_ofList]
    rfl
  rw [braces, isPlaceholder, Bool.or_eq_true, blankText, beq_iff_eq]

theorem renameRead {c : ToolCall} (read : c.Read) (name : String) : (c.rename name).Read := by
  unfold rename
  split
  · exact read
  · exact ⟨read.shown, read.last⟩

theorem newRead (id name : String) : (new id name).Read where
  shown := rfl
  last _ real := by cases real

theorem fragmentRead (c : ToolCall) (fragment : String) : (c.addFragment fragment).Read := by
  rw [addFragment]
  exact withArgumentsRead c _

theorem withArgsRead (c : ToolCall) {args : Json} (read : Json.ofText? args.text = some args) :
    (c.withArgs args).Read where
  shown := by
    rw [withArgs, readArguments]
    split
    · rename_i placeholder
      rw [documentEmpty read placeholder]
    · rw [documentPreview read]
  last _ _ accepted := read.symm.trans accepted

theorem argsRead {e : ToolEvent} (fits : e.Fits) {args : Json} (given : e.args = some args)
    (exact : args.floatFree = true) : Json.ofText? args.text = some args := by
  have room : args.Fits 126 := (fits args (.inl given)).2
  exact Json.standsRead (Json.fitsStands (Json.fitsMore room (by decide)) exact)

theorem advanceRead {c : ToolCall} (read : c.Read) {e : ToolEvent} (fits : e.Fits)
    (exact : e.args.all Json.floatFree = true) (phase : Phase) : (c.advance phase e).Read := by
  have renamed := renameRead read e.name
  have whole (c : ToolCall) {args : Json} (given : e.args = some args) :
      (c.withArgs args).Read := by
    rw [given, Option.all_some] at exact
    exact withArgsRead c (argsRead fits given exact)
  cases phase with
  | start =>
    simp only [advance, onStart]
    split
    · split
      · exact renamed
      · exact withArgumentsRead _ _
    · exact renamed
  | update =>
    refine Read.withStatus ?_ .streaming
    split
    · exact fragmentRead _ _
    · rename_i given
      exact whole _ given
    · exact renamed
  | execute =>
    refine Read.withStatus ?_ .executing
    split
    · rename_i given
      exact whole _ given
    · exact renamed
  | result => exact ⟨renamed.shown, renamed.last⟩

end ToolCall

namespace Session

theorem settledCallsAct {s : Session} {a : Action} {c : ToolCall}
    (inside : c ∈ (s.act a).settled.flatMap Message.calls) : c ∈ s.calls := by
  cases a with
  | submit content =>
    have uncalled : (Message.ofText .user content).calls = [] := rfl
    simpa [act, submit, uncalled, calls] using inside
  | event e =>
    rw [show (s.act (.event e)).settled = s.settled from (eventsKeep s [e]).1] at inside
    exact callsOpen s ▸ List.mem_append_left _ inside
  | clear => cases inside
  | finish | abort | fail => exact inside

theorem openCallsAct {s : Session} {a : Action} {c : ToolCall}
    (inside : c ∈ (s.act a).openCalls) : c ∈ s.openCalls ∨
      ∃ phase e, a = .event (.tool phase e) ∧
        c = (s.callFor e.toolCallId e.name).advance phase e := by
  cases a with
  | event e =>
    cases e with
    | reply content =>
      simp only [act, apply] at inside
      split at inside
      · exact .inl inside
      · rw [openCalls, addText, Option.getD_some, Part.addTextCalls] at inside
        exact .inl inside
    | tool phase e =>
      simp only [act, apply] at inside
      rcases s.toolCases phase e with ⟨-, ignored⟩ | ⟨-, -, call, advanced, applied⟩
      · rw [ignored] at inside
        exact .inl inside
      · rw [applied, openCalls, putCall, Option.getD_some] at inside
        rcases Part.putCallMem inside with same | old
        · exact .inr ⟨phase, e, rfl, same.trans advanced⟩
        · exact .inl old
    | stepLimit message => exact .inl inside
  | _ => cases inside

/-- The calls of the open reply are read from their texts, and so is every call that the session
did not begin with. -/
structure Followed (seed : List ToolCall) (s : Session) : Prop where
  opened : ∀ c ∈ s.openCalls, c.Read
  all : ∀ c ∈ s.calls, c ∈ seed ∨ c.Read

theorem followedStart (seed : List Message) :
    Followed (seed.flatMap Message.calls) (ofHistory seed) where
  opened := nofun
  all c inside := by
    have messages : (ofHistory seed).messages = seed := NotedSession.messagesSettled rfl
    rw [calls, messages] at inside
    exact .inl inside

theorem callForRead {seed : List ToolCall} {s : Session} (followed : s.Followed seed)
    (id name : String) : (s.callFor id name).Read := by
  rcases NotedSession.callForCases s id name with found | fresh
  · exact followed.opened _ (Part.foundCall found).1
  · rw [fresh]
    exact ToolCall.newRead _ _

/-- An action whose event, if it is one, came in a payload and gives no floating numbers. -/
def Action.Exact (a : Action) : Prop := ∀ e, a = .event e → e.Fits ∧ e.argsFloatFree = true

theorem actionsExact {actions : List Action} (decoded : ∀ e, .event e ∈ actions → e.Decoded)
    (exact : ∀ e, .event e ∈ actions → e.argsFloatFree = true) : ∀ a ∈ actions, a.Exact := by
  intro a inside e given
  subst given
  exact ⟨Event.decodedFits (decoded e inside), exact e inside⟩

theorem followedAct {seed : List ToolCall} {s : Session} {a : Action} (followed : s.Followed seed)
    (exact : a.Exact) : (s.act a).Followed seed := by
  have opened : ∀ c ∈ (s.act a).openCalls, c.Read := by
    intro c inside
    rcases openCallsAct inside with old | ⟨phase, e, given, rfl⟩
    · exact followed.opened c old
    · obtain ⟨fits, floatFree⟩ := exact _ given
      exact ToolCall.advanceRead (callForRead followed _ _) fits floatFree phase
  refine ⟨opened, fun c inside => ?_⟩
  rw [callsOpen, List.mem_append] at inside
  rcases inside with settled | reply
  · exact followed.all c (settledCallsAct settled)
  · exact .inr (opened c reply)

theorem followedRun {seed : List ToolCall} {s : Session} {actions : List Action}
    (followed : s.Followed seed) (exact : ∀ a ∈ actions, a.Exact) :
    (s.run actions).Followed seed := by
  induction actions generalizing s with
  | nil => exact followed
  | cons a rest ih =>
    obtain ⟨first, later⟩ := List.forall_mem_cons.mp exact
    exact ih (followedAct followed first) later

/-- In every state, under events that were decoded, a call shows what its text says. -/
theorem argumentsFollowed (seed : List Message) {actions : List Action}
    (decoded : ∀ e, .event e ∈ actions → e.Decoded)
    (exact : ∀ e, .event e ∈ actions → e.argsFloatFree = true) :
    ∀ c ∈ ((ofHistory seed).run actions).calls, c ∉ seed.flatMap Message.calls →
      (⟨c.parsed, c.quality⟩ : Json.Preview) =
        if Text.blank c.arguments = true ∨ Text.trim c.arguments = "\x7b\x7d" then
          ⟨.object [], .complete⟩
        else Json.preview c.arguments := by
  intro c inside new
  have followed := followedRun (followedStart seed) (actionsExact decoded exact)
  rcases followed.all c inside with old | read
  · exact absurd old new
  · rw [read.shown, ToolCall.readArguments]
    simp only [ToolCall.placeholderIff]
    rfl

def mixedArguments : List Action :=
  [.submit "q", .event (.tool .start ⟨"1", "", some "\x7b", none, none, none⟩),
    .event (.tool .update ⟨"1", "", none, some (.object [("b", .array [.bool true])]), none, none⟩),
    .event (.tool .update ⟨"1", "", some " ", none, none, none⟩)]

theorem mixedDecoded : ∀ e, .event e ∈ mixedArguments → e.Decoded := by
  intro e inside
  simp only [mixedArguments, List.mem_cons, reduceCtorEq, Action.event.injEq, false_or,
    List.not_mem_nil, or_false] at inside
  rcases inside with rfl | rfl | rfl
  · exact ⟨"\x7b\"type\":\"tool_start\",\"toolCallID\":\"1\",\"arguments\":\"\x7b\"\x7d", by rfl⟩
  · exact ⟨"\x7b\"type\":\"tool_update\",\"toolCallID\":\"1\",\"args\":\x7b\"b\":[true]\x7d\x7d",
      by rfl⟩
  · exact ⟨"\x7b\"type\":\"tool_update\",\"toolCallID\":\"1\",\"arguments\":\" \"\x7d", by rfl⟩

theorem mixedExact : ∀ e, .event e ∈ mixedArguments → e.argsFloatFree = true := by
  intro e inside
  simp only [mixedArguments, List.mem_cons, reduceCtorEq, Action.event.injEq, false_or,
    List.not_mem_nil, or_false] at inside
  rcases inside with rfl | rfl | rfl <;> decide

theorem snapshotContinued :
    (∀ e, .event e ∈ mixedArguments → e.Decoded) ∧
    (∀ e, .event e ∈ mixedArguments → e.argsFloatFree = true) ∧
    ∀ c ∈ (Session.empty.run mixedArguments).calls, (⟨c.parsed, c.quality⟩ : Json.Preview) =
      if Text.blank c.arguments = true ∨ Text.trim c.arguments = "\x7b\x7d" then
        ⟨.object [], .complete⟩
      else Json.preview c.arguments :=
  ⟨mixedDecoded, mixedExact, fun c inside =>
    argumentsFollowed [] mixedDecoded mixedExact c inside List.not_mem_nil⟩

end Session
end ChaincodeConsole
