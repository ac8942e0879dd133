import ChaincodeConsole.Proofs.Chat.Arguments

/-! The last well-formed value of a call's arguments. It is the last value that their text was read
as, where each action is followed by one reading. An empty object is read only where it came as a
value and was not put together from text, for that one stands for arguments still to come. -/
namespace ChaincodeConsole

namespace ToolCall

def replaces (phase : Phase) (e : ToolEvent) : Bool :=
  match phase with
  | .update => e.arguments.isNone && e.args.isSome
  | .execute => e.args.isSome
  | .start | .result => false

def reading? (valued : Bool) (text : String) : Option Json :=
  if Text.trim text = "\x7b\x7d" ∧ valued = false then none else Json.ofText? text

theorem acceptedReal {text : String} {v : Json} (accepted : Json.ofText? text = some v)
    (more : Text.trim text ≠ "\x7b\x7d") : isPlaceholder text = false := by
  refine eq_false_of_ne_true fun placeholder => ?_
  have blank := ((placeholderIff text).mp placeholder).resolve_right more
  cases blank.symm.trans (Json.notBlank (Json.textAccepted.mp accepted))

theorem readingReal {text : String} (real : isPlaceholder text = false) (valued : Bool) :
    reading? valued text = Json.ofText? text := by
  rw [reading?, if_neg]
  intro ⟨braces, _⟩
  cases real.symm.trans ((placeholderIff text).mpr (.inr braces))

theorem readingNone {text : String} (placeholder : isPlaceholder text = true) :
    reading? false text = none := by
  rw [reading?]
  split
  · rfl
  · rename_i other
    refine Option.eq_none_iff_forall_ne_some.mpr fun v accepted => ?_
    cases placeholder.symm.trans (acceptedReal accepted fun same => other ⟨same, rfl⟩)

theorem readingStands {c : ToolCall} (read : c.Read) :
    (reading? false c.arguments).or c.lastComplete = c.lastComplete := by
  cases real : isPlaceholder c.arguments with
  | true => rw [readingNone real, Option.none_or]
  | false =>
    rw [readingReal real]
    cases accepted : Json.ofText? c.arguments with
    | none => rfl
    | some v => exact (read.last v real accepted).symm

theorem withArgumentsLast (c : ToolCall) (text : String) :
    (c.withArguments text).lastComplete = (reading? false text).or c.lastComplete := by
  unfold withArguments
  split
  · rename_i placeholder
    rw [readingNone placeholder, Option.none_or]
  · rename_i real
    rw [readingReal (eq_false_of_ne_true real)]
    cases accepted : Json.ofText? text with
    | some v => simp [documentPreview accepted]
    | none =>
      have repaired : (Json.preview text).quality ≠ .complete := by
        rw [Json.preview, accepted]
        cases (Json.complete? text).bind Json.ofText? <;> simp
      simp [repaired]

theorem renameLast (c : ToolCall) (name : String) :
    (c.rename name).lastComplete = c.lastComplete := by
  unfold rename
  split <;> rfl

theorem withArgsLast (c : ToolCall) {args : Json} (read : Json.ofText? args.text = some args) :
    (c.withArgs args).lastComplete = (reading? true args.text).or c.lastComplete := by
  simp [withArgs, reading?, read]

theorem advanceLast {c : ToolCall} (read : c.Read) {e : ToolEvent} (fits : e.Fits)
    (exact : e.args.all Json.floatFree = true) (phase : Phase) :
    (c.advance phase e).lastComplete =
      (reading? (replaces phase e) (c.advance phase e).arguments).or c.lastComplete := by
  have stands := readingStands (renameRead read e.name)
  have whole {args : Json} (given : e.args = some args) := by
    rw [given, Option.all_some] at exact
    exact withArgsLast (c.rename e.name) (argsRead fits given exact)
  rw [← renameLast c e.name]
  cases phase with
  | start =>
    simp only [advance, onStart, replaces]
    split
    · split
      · exact stands.symm
      · rw [withArgumentsLast, withArgumentsText]
    · exact stands.symm
  | update =>
    simp only [advance, onUpdate, replaces]
    split
    · rename_i given
      rw [given, addFragment, withArgumentsLast, withArgumentsText]
      rfl
    · rename_i bare given
      rw [bare, given, whole given]
      rfl
    · rename_i bare missing
      rw [bare, missing]
      exact stands.symm
  | execute =>
    simp only [advance, onExecute, replaces]
    split
    · rename_i given
      rw [given, whole given]
      rfl
    · rename_i missing
      rw [missing]
      exact stands.symm
  | result => exact stands.symm

end ToolCall

namespace Session

def replaced (s : Session) (id : String) : Action → Bool
  | .event (.tool phase e) =>
    (s.applyTool phase e).change == .tool id phase && ToolCall.replaces phase e
  | _ => false

def lastReading (s : Session) (id : String) (known : Option Json) : List Action → Option Json
  | [] => known
  | a :: rest => (s.act a).lastReading id
    (((s.act a).openCall? id).bind fun c =>
      (ToolCall.reading? (s.replaced id a) c.arguments).or known) rest

theorem openCallAct {s : Session} {id : String} {a : Action} {c : ToolCall}
    (found : (s.act a).openCall? id = some c) :
    (s.openCall? id = some c ∧ s.replaced id a = false) ∨
      ∃ phase e, a = .event (.tool phase e) ∧ s.replaced id a = ToolCall.replaces phase e ∧
        c = (s.callFor id e.name).advance phase e := by
  cases a with
  | event e =>
    cases e with
    | tool phase e =>
      by_cases own : e.toolCallId = id
      · subst own
        rcases s.toolCases phase e with ⟨-, ignored⟩ | ⟨-, -, call, advanced, applied⟩
        · rw [act, apply, ignored] at found
          exact .inl ⟨found, by simp [replaced, ignored]⟩
        · refine .inr ⟨phase, e, rfl, by simp [replaced, applied], ?_⟩
          rw [act, apply, applied, ← s.advancedId phase e, ← advanced, putOpen] at found
          cases found
          exact advanced
      · rw [act, otherCall s (by simpa [Event.isOf] using own)] at found
        refine .inl ⟨found, ?_⟩
        rcases s.toolCases phase e with ⟨-, applied⟩ | ⟨-, -, _, -, applied⟩ <;>
          simp [replaced, applied, own]
    | _ => exact .inl ⟨(otherCall s rfl).symm.trans found, rfl⟩
  | _ => cases found

theorem actLast {seed : List ToolCall} {s : Session} {a : Action} (followed : s.Followed seed)
    (exact : a.Exact) (id : String) : ((s.act a).openCall? id).bind (·.lastComplete) =
      ((s.act a).openCall? id).bind fun c =>
        (ToolCall.reading? (s.replaced id a) c.arguments).or
          ((s.openCall? id).bind (·.lastComplete)) := by
  cases found : (s.act a).openCall? id with
  | none => rfl
  | some c =>
    simp only [Option.bind_some]
    rcases openCallAct found with ⟨kept, text⟩ | ⟨phase, e, given, valued, advanced⟩
    · have read := followed.opened c (Part.foundCall kept).1
      rw [kept, text, Option.bind_some, ToolCall.readingStands read]
    · have last : (s.openCall? id).bind (·.lastComplete) = (s.callFor id e.name).lastComplete := by
        unfold callFor openCall?
        cases Part.findCall? id (s.reply.getD []) <;> rfl
      obtain ⟨fits, floatFree⟩ := exact _ given
      rw [last, valued, advanced]
      exact ToolCall.advanceLast (callForRead followed id e.name) fits floatFree phase

theorem runLast {seed : List ToolCall} {s : Session} {actions : List Action}
    (followed : s.Followed seed) (exact : ∀ a ∈ actions, a.Exact) (id : String) :
    s.lastReading id ((s.openCall? id).bind (·.lastComplete)) actions =
      ((s.run actions).openCall? id).bind (·.lastComplete) := by
  induction actions generalizing s with
  | nil => rfl
  | cons a rest ih =>
    obtain ⟨first, later⟩ := List.forall_mem_cons.mp exact
    rw [lastReading, ← actLast followed first id]
    exact ih (followedAct followed first) later

theorem callsOpened {seed : List Message} (actions : List Action) :
    ∀ c ∈ ((ofHistory seed).run actions).calls, c ∉ seed.flatMap Message.calls →
      ∃ front, front <+: actions ∧ ((ofHistory seed).run front).openCall? c.id = some c := by
  induction actions using List.reverseRecOn with
  | nil =>
    intro c inside new
    have messages : (ofHistory seed).messages = seed := NotedSession.messagesSettled rfl
    rw [run, List.foldl_nil, calls, messages] at inside
    exact absurd inside new
  | append_singleton front a ih =>
    intro c inside new
    rw [runAppend] at inside
    change c ∈ (((ofHistory seed).run front).act a).calls at inside
    rw [callsOpen, List.mem_append] at inside
    rcases inside with settled | reply
    · obtain ⟨before, part, found⟩ := ih c (settledCallsAct settled) new
      exact ⟨before, part.trans (List.prefix_append front [a]), found⟩
    · refine ⟨front ++ [a], List.prefix_refl _, ?_⟩
      rw [runAppend]
      have tidy := runTidy (s := ofHistory seed) Part.tidyNil (front ++ [a])
      rw [runAppend] at tidy
      exact (Part.foundIff tidy).mpr ⟨reply, rfl⟩

/-- In every state, under events that were decoded, a call holds the value of its text if that is
well-formed and not a mere pair of braces, and otherwise the last value that was read of it. -/
theorem lastCompleteRead (seed : List Message) {actions : List Action}
    (decoded : ∀ e, .event e ∈ actions → e.Decoded)
    (exact : ∀ e, .event e ∈ actions → e.argsFloatFree = true) :
    ∀ c ∈ ((ofHistory seed).run actions).calls, c ∉ seed.flatMap Message.calls →
      (∀ v, Json.ofText? c.arguments = some v → Text.trim c.arguments ≠ "\x7b\x7d" →
        c.lastComplete = some v) ∧
      ∃ front, front <+: actions ∧ ((ofHistory seed).run front).openCall? c.id = some c ∧
        c.lastComplete = (ofHistory seed).lastReading c.id none front := by
  intro c inside new
  have whole := actionsExact decoded exact
  constructor
  · intro v accepted more
    rcases (followedRun (followedStart seed) whole).all c inside with old | read
    · exact absurd old new
    · exact read.last v (ToolCall.acceptedReal accepted more) accepted
  · obtain ⟨front, part, found⟩ := callsOpened actions c inside new
    have last := runLast (followedStart seed) (fun a given => whole a (part.subset given)) c.id
    rw [found] at last
    exact ⟨front, part, found, last.symm⟩

theorem mixedRead :
    (∀ e, .event e ∈ mixedArguments → e.Decoded) ∧
    (∀ e, .event e ∈ mixedArguments → e.argsFloatFree = true) ∧
    ∃ c ∈ (Session.empty.run mixedArguments).calls,
      c.arguments = "\x7b\"b\":[true]\x7d " ∧
      c.lastComplete = some (.object [("b", .array [.bool true])]) :=
  ⟨mixedDecoded, mixedExact, _, List.mem_singleton.mpr rfl, rfl,
    (lastCompleteRead [] mixedDecoded mixedExact _ (List.mem_singleton.mpr rfl)
      List.not_mem_nil).1 _ rfl (by decide)⟩

theorem bracesUnread :
    (∃ c, ((ofTexts []).run [.submit "q",
        .event (.tool .update (fragment "1" "\x7b\x7d"))]).openCall? "1" = some c ∧
      Json.ofText? c.arguments = some (.object []) ∧ c.lastComplete = none) ∧
    ∃ c, ((ofTexts []).run [.submit "q",
        .event (.tool .update { ToolEvent.ofId "1" with args := some (.object [("a", .null)]) }),
        .event (.tool .start (fragment "1" "\x7b")),
        .event (.tool .update (fragment "1" "\x7d"))]).openCall? "1" = some c ∧
      Json.ofText? c.arguments = some (.object []) ∧
      c.lastComplete = some (.object [("a", .null)]) :=
  ⟨⟨_, rfl, rfl, rfl⟩, _, rfl, rfl, rfl⟩

end Session
end ChaincodeConsole
