import ChaincodeConsole.Proofs.Chat.Placeholders
import ChaincodeConsole.Proofs.Chat.Threads

/-! A document that comes in fragments, as the arguments of a call: however it is cut, and
whatever else happens in the reply, the call ends up with its value. After each update the values
of the call are those of the text that it holds, so only that text has to be followed. -/
namespace ChaincodeConsole

namespace ToolCall

def readArguments (arguments : String) : Json.Preview :=
  if isPlaceholder arguments then ⟨.empty, .complete⟩ else Json.preview arguments

structure Read (c : ToolCall) : Prop where
  shown : (⟨c.parsed, c.quality⟩ : Json.Preview) = readArguments c.arguments
  last : ∀ v, isPlaceholder c.arguments = false → Json.ofText? c.arguments = some v →
    c.lastComplete = some v

theorem documentPreview {d : String} {v : Json} (accepted : Json.ofText? d = some v) :
    Json.preview d = ⟨v, .complete⟩ := by
  rw [Json.preview, accepted]

theorem withArgumentsText (c : ToolCall) (arguments : String) :
    (c.withArguments arguments).arguments = arguments := by
  unfold withArguments
  split <;> rfl

theorem withArgumentsRead (c : ToolCall) (arguments : String) :
    (c.withArguments arguments).Read := by
  constructor
  · rw [withArgumentsText, readArguments]
    unfold withArguments
    split <;> rfl
  · intro v real accepted
    rw [withArgumentsText] at real accepted
    simp [withArguments, real, documentPreview accepted]

theorem Read.withStatus {c : ToolCall} (read : c.Read) (status : ToolStatus) :
    ({ c with status := status } : ToolCall).Read := ⟨read.shown, read.last⟩

theorem updateFragment (c : ToolCall) {e : ToolEvent} {f : String} (given : e.arguments = some f) :
    (c.advance .update e).arguments = (if isPlaceholder c.arguments then f else c.arguments ++ f) ∧
      (c.advance .update e).Read ∧ (c.advance .update e).status = .streaming := by
  simp only [advance, onUpdate, given, addFragment, (renameArguments c e.name).1]
  exact ⟨withArgumentsText _ _, (withArgumentsRead _ _).withStatus .streaming, trivial⟩

theorem startBare (c : ToolCall) {e : ToolEvent}
    (bare : ∀ a, e.arguments = some a → isPlaceholder a = true) :
    (c.advance .start e).arguments = c.arguments ∧ (c.advance .start e).status = c.status := by
  rw [startUnread c bare]
  exact ⟨(renameArguments c e.name).1, renameStatus c e.name⟩

end ToolCall

namespace Session

open ToolCall (isPlaceholder gather)

theorem ownRunning (s : Session) {phase : Phase} {e : ToolEvent} (named : e.toolCallId ≠ "")
    (running : (s.callFor e.toolCallId e.name).status.isTerminal = false) :
    (s.apply (.tool phase e)).session.openCall? e.toolCallId =
      some ((s.callFor e.toolCallId e.name).advance phase e) := by
  rcases s.toolCases phase e with ⟨ended, -⟩ | ⟨-, -, call, advanced, applied⟩
  · simp [named, running] at ended
  · rw [apply, applied, ← advanced, ← s.advancedId phase e, ← advanced]
    exact putOpen s call _

def Bare (s : Session) (id : String) : Prop :=
  ∀ c, s.openCall? id = some c → c.status.isTerminal = false ∧ isPlaceholder c.arguments = true

theorem bareCallFor {s : Session} {id : String} (bare : s.Bare id) (name : String) :
    (s.callFor id name).status.isTerminal = false ∧
      isPlaceholder (s.callFor id name).arguments = true := by
  rcases NotedSession.callForCases s id name with found | fresh
  · exact bare _ found
  · rw [fresh]
    exact ⟨rfl, rfl⟩

theorem bareStarts {s : Session} {id : String} (named : id ≠ "") (bare : s.Bare id)
    {starts : List ToolEvent} (own : ∀ e ∈ starts, e.toolCallId = id)
    (placeholders : ∀ e ∈ starts, ∀ a, e.arguments = some a → isPlaceholder a = true) :
    (s.run (starts.map fun e => .event (.tool .start e))).Bare id := by
  induction starts generalizing s with
  | nil => exact bare
  | cons e rest ih =>
    obtain rfl := own e List.mem_cons_self
    refine ih ?_ (fun f inside => own f (List.mem_cons_of_mem e inside))
      (fun f inside => placeholders f (List.mem_cons_of_mem e inside))
    obtain ⟨running, placeholder⟩ := bareCallFor bare e.name
    obtain ⟨same, still⟩ := ToolCall.startBare (s.callFor e.toolCallId e.name)
      (placeholders e List.mem_cons_self)
    intro c found
    cases (ownRunning s named running).symm.trans found
    rw [same, still]
    exact ⟨running, placeholder⟩

def Holding (s : Session) (id held : String) : Prop :=
  ∃ c, s.openCall? id = some c ∧ c.status.isTerminal = false ∧ c.arguments = held ∧ c.Read

theorem updateHolds {s : Session} {e : ToolEvent} {f : String} (named : e.toolCallId ≠ "")
    (running : (s.callFor e.toolCallId e.name).status.isTerminal = false)
    (given : e.arguments = some f) :
    (s.apply (.tool .update e)).session.Holding e.toolCallId
      (if isPlaceholder (s.callFor e.toolCallId e.name).arguments then f
        else (s.callFor e.toolCallId e.name).arguments ++ f) := by
  obtain ⟨text, read, streaming⟩ := ToolCall.updateFragment (s.callFor e.toolCallId e.name) given
  exact ⟨_, ownRunning s named running, by rw [streaming]; rfl, text, read⟩

theorem updatesHold {s : Session} {id held : String} (named : id ≠ "") (holding : s.Holding id held)
    {updates : List ToolEvent} {fragments : List String} (own : ∀ e ∈ updates, e.toolCallId = id)
    (given : updates.map (·.arguments) = fragments.map some) :
    (s.run (updates.map fun e => .event (.tool .update e))).Holding id (gather held fragments) := by
  induction updates generalizing s held fragments with
  | nil =>
    cases fragments with
    | nil => exact holding
    | cons f rest => cases given
  | cons e more ih =>
    cases fragments with
    | nil => cases given
    | cons f rest =>
      obtain rfl := own e List.mem_cons_self
      obtain ⟨first, later⟩ := List.cons.inj given
      obtain ⟨c, found, running, text, -⟩ := holding
      have call : s.callFor e.toolCallId e.name = c := congrArg (Option.getD · _) found
      have next := updateHolds named (call ▸ running) first
      rw [call, text] at next
      rw [ToolCall.gatherCons]
      exact ih next (fun g inside => own g (List.mem_cons_of_mem e inside)) later

theorem threadHolds {s : Session} {id : String} (named : id ≠ "") (bare : s.Bare id)
    {starts updates : List ToolEvent} {fragments : List String}
    (ownStarts : ∀ e ∈ starts, e.toolCallId = id) (ownUpdates : ∀ e ∈ updates, e.toolCallId = id)
    (placeholders : ∀ e ∈ starts, ∀ a, e.arguments = some a → isPlaceholder a = true)
    (given : updates.map (·.arguments) = fragments.map some) (pieces : fragments ≠ []) :
    ∃ held, isPlaceholder held = true ∧
      (s.run (starts.map (fun e => .event (.tool .start e)) ++
        updates.map fun e => .event (.tool .update e))).Holding id (gather held fragments) := by
  rw [runAppend]
  have begun := bareStarts named bare ownStarts placeholders
  cases updates with
  | nil => exact absurd (List.map_eq_nil_iff.mp given.symm) pieces
  | cons e more =>
    cases fragments with
    | nil => exact absurd rfl pieces
    | cons f rest =>
      obtain rfl := ownUpdates e List.mem_cons_self
      obtain ⟨first, later⟩ := List.cons.inj given
      obtain ⟨running, placeholder⟩ := bareCallFor begun e.name
      refine ⟨_, placeholder, ?_⟩
      rw [ToolCall.gatherCons]
      exact updatesHold named (updateHolds named running first)
        (fun g inside => ownUpdates g (List.mem_cons_of_mem e inside)) later

theorem fragmentsGathered (s : Session) (id : String) (named : id ≠ "") (bare : s.Bare id)
    (events : List Event) (starts updates : List ToolEvent) (fragments : List String) (v : Json)
    (thread : events.filter (·.isOf id) = starts.map (.tool .start) ++ updates.map (.tool .update))
    (placeholders : ∀ e ∈ starts, ∀ a, e.arguments = some a → isPlaceholder a = true)
    (given : updates.map (·.arguments) = fragments.map some)
    (accepted : Json.ofText? (String.join fragments) = some v) :
    ∃ c, (s.run (events.map .event)).openCall? id = some c ∧ c.parsed = v ∧
      c.quality = .complete ∧
      (Text.trim (String.join fragments) ≠ "\x7b\x7d" →
        c.arguments = String.join (fragments.dropWhile Text.blank) ∧ c.lastComplete = some v) := by
  have own {phase : Phase} {e : ToolEvent}
      (inside : Event.tool phase e ∈
        starts.map (Event.tool .start) ++ updates.map (Event.tool .update)) :
      e.toolCallId = id := by
    rw [← thread] at inside
    simpa [Event.isOf] using (List.mem_filter.mp inside).2
  have filled : Text.blank (String.join fragments) = false :=
    Json.notBlank (Json.textAccepted.mp accepted)
  have pieces : fragments ≠ [] := by
    rintro rfl
    cases filled
  obtain ⟨held, placeholder, c, found, -, text, read⟩ := threadHolds named bare
    (fun e inside => own (List.mem_append_left _ (List.mem_map_of_mem inside)))
    (fun e inside => own (List.mem_append_right _ (List.mem_map_of_mem inside)))
    placeholders given pieces
  refine ⟨c, ?_, ?_⟩
  · rw [(threadAlone rfl events).1, thread, List.map_append, List.map_map, List.map_map]
    exact found
  · cases whole : isPlaceholder (String.join fragments) with
    | true =>
      have shown := read.shown
      rw [text, ToolCall.readArguments, if_pos (ToolCall.gatherPlaceholder placeholder whole)]
        at shown
      injection shown with parsed quality
      rw [ToolCall.documentEmpty accepted whole]
      exact ⟨parsed, quality, fun more => absurd (ToolCall.placeholderTrim whole filled) more⟩
    | false =>
      obtain ⟨kept, again, real⟩ := ToolCall.gatherDocument placeholder accepted whole
      have shown := read.shown
      rw [text, ToolCall.readArguments, real, ToolCall.documentPreview again] at shown
      injection shown with parsed quality
      exact ⟨parsed, quality, fun _ => ⟨text.trans kept, read.last v (text ▸ real) (text ▸ again)⟩⟩

def fragment (id text : String) : ToolEvent := { ToolEvent.ofId id with arguments := some text }

theorem partedObject :
    ∃ c, (((ofTexts []).run [.submit "q"]).run
        ([.tool .start (fragment "1" "\x7b\x7d"), .tool .update (fragment "1" " "), .reply "x",
          .tool .update (fragment "1" "\x7b"), .tool .result (.ofId "2"),
          .tool .update (fragment "1" "\"a\":null\x7d")].map .event)).openCall? "1" = some c ∧
      c.parsed = .object [("a", .null)] ∧ c.quality = .complete ∧
      (Text.trim (String.join [" ", "\x7b", "\"a\":null\x7d"]) ≠ "\x7b\x7d" →
        c.arguments = String.join ([" ", "\x7b", "\"a\":null\x7d"].dropWhile Text.blank) ∧
        c.lastComplete = some (.object [("a", .null)])) :=
  fragmentsGathered ((ofTexts []).run [.submit "q"]) "1" (by decide)
    (fun _ found => by cases found) _ [fragment "1" "\x7b\x7d"]
    [fragment "1" " ", fragment "1" "\x7b", fragment "1" "\"a\":null\x7d"]
    [" ", "\x7b", "\"a\":null\x7d"] _ rfl (by simp [fragment]; decide) rfl rfl

end Session
end ChaincodeConsole
