import ChaincodeConsole.Proofs.Chat.Runs

/-! A conversation that is not cleared only grows, whatever prompts, events and endings of turns
follow. Settled messages stay as they are; in the open reply a part keeps its place and its kind,
a text changes while it is last, by text at its end, and a call changes until it has its result. -/
namespace ChaincodeConsole

namespace Part

/-- What may stand later at the place of a part. -/
inductive Becomes : Part → Part → Prop where
  | text (t more : String) : Becomes (.text t) (.text (t ++ more))
  | call {c d : ToolCall} (named : d.id = c.id) (ended : c.status.isTerminal = true → d = c) :
      Becomes (.tool c) (.tool d)

theorem becomesSame (p : Part) : p.Becomes p := by
  cases p with
  | text t => simpa using Becomes.text t ""
  | tool c => exact .call rfl fun _ => rfl

theorem becomesLater {p q r : Part} (first : p.Becomes q) (second : q.Becomes r) : p.Becomes r := by
  cases first with
  | text t more =>
    cases second with
    | text _ rest => exact String.append_assoc ▸ .text t (more ++ rest)
  | call named ended =>
    cases second with
    | call again settled =>
      refine .call (again.trans named) fun terminal => ?_
      have same := ended terminal
      subst same
      exact settled terminal

/-- Later parts of a message, against earlier ones: each part is still at its place, and a text
that was not the last part is the same. -/
def Grown (earlier later : List Part) : Prop :=
  ∀ (j : Nat) (p : Part), earlier[j]? = some p → ∃ q, later[j]? = some q ∧ p.Becomes q ∧
    (p.isText = true → j + 1 < earlier.length → q = p)

theorem grownSame (parts : List Part) : Grown parts parts :=
  fun _ p found => ⟨p, found, becomesSame p, fun _ _ => rfl⟩

theorem grownLonger {earlier later : List Part} (grown : Grown earlier later) :
    earlier.length ≤ later.length := by
  by_contra shorter
  have last : later.length < earlier.length := Nat.lt_of_not_le shorter
  obtain ⟨q, found, -⟩ := grown later.length _ (List.getElem?_eq_getElem last)
  simp at found

theorem grownLater {a b c : List Part} (first : Grown a b) (second : Grown b c) : Grown a c := by
  intro j p found
  obtain ⟨q, middle, becomes, fixed⟩ := first j p found
  obtain ⟨r, last, again, still⟩ := second j q middle
  refine ⟨r, last, becomesLater becomes again, fun isText inner => ?_⟩
  have same := fixed isText inner
  subst same
  exact still isText (Nat.lt_of_lt_of_le inner (grownLonger first))

theorem addTextGrown (content : String) (parts : List Part) :
    Grown parts (addText content parts) := by
  obtain ⟨i, t, before, changed⟩ := addTextPlace content parts
  intro j p found
  rw [changed]
  by_cases here : j = i
  · subst here
    obtain ⟨rfl, last⟩ := before p found
    rw [if_pos rfl]
    exact ⟨_, rfl, .text t content, fun _ inner => by omega⟩
  · rw [if_neg here]
    exact ⟨p, found, becomesSame p, fun _ _ => rfl⟩

theorem putCallGrown {call : ToolCall} {parts : List Part}
    (running : ∀ old, findCall? call.id parts = some old → old.status.isTerminal = false) :
    Grown parts (putCall call parts) := by
  obtain ⟨i, before, changed⟩ := putCallPlace call parts
  intro j p found
  rw [changed]
  by_cases here : j = i
  · subst here
    obtain ⟨old, rfl, named, known⟩ := before p found
    rw [if_pos rfl]
    refine ⟨_, rfl, .call named.symm fun terminal => ?_, fun isText => by cases isText⟩
    cases (running old known).symm.trans terminal
  · rw [if_neg here]
    exact ⟨p, found, becomesSame p, fun _ _ => rfl⟩

end Part

namespace Session

structure Grown (s t : Session) : Prop where
  settled : ∀ (i : Nat) (m : Message), s.messages[i]? = some m → s.sealedAt i = true →
    t.messages[i]? = some m ∧ t.sealedAt i = true
  messages : ∀ (i : Nat) (m : Message), s.messages[i]? = some m →
    ∃ n, t.messages[i]? = some n ∧ n.role = m.role ∧ Part.Grown m.parts n.parts

theorem grownSame (s : Session) : s.Grown s :=
  ⟨fun _ _ found closed => ⟨found, closed⟩, fun _ m found => ⟨m, found, rfl, Part.grownSame _⟩⟩

theorem grownLater {s t u : Session} (first : s.Grown t) (second : t.Grown u) : s.Grown u where
  settled i m found closed :=
    second.settled i m (first.settled i m found closed).1 (first.settled i m found closed).2
  messages i m found := by
    obtain ⟨n, middle, role, parts⟩ := first.messages i m found
    obtain ⟨o, last, same, grown⟩ := second.messages i n middle
    exact ⟨o, last, same.trans role, Part.grownLater parts grown⟩

theorem grownAdded {s t : Session} {more : List Message}
    (added : t.messages = s.messages ++ more) (settled : s.settled.length ≤ t.settled.length) :
    s.Grown t := by
  have kept {i : Nat} {m : Message} (found : s.messages[i]? = some m) :
      t.messages[i]? = some m := by
    rw [added, List.getElem?_append_left (List.getElem?_eq_some_iff.mp found).1, found]
  refine ⟨fun i m found closed => ⟨kept found, ?_⟩, fun i m found =>
    ⟨m, kept found, rfl, Part.grownSame _⟩⟩
  simp only [sealedAt, decide_eq_true_eq] at closed ⊢
  exact Nat.lt_of_lt_of_le closed settled

theorem grownReply {s t : Session} {parts : List Part} (settled : t.settled = s.settled)
    (reply : t.reply = some parts) (grown : Part.Grown (s.reply.getD []) parts) : s.Grown t := by
  have closed {i : Nat} (inside : i < s.settled.length) : t.messages[i]? = s.messages[i]? := by
    rw [Session.messages, Session.messages, settled, List.getElem?_append_left inside,
      List.getElem?_append_left inside]
  refine ⟨fun i m found inside => ?_, fun i m found => ?_⟩
  · simp only [sealedAt, decide_eq_true_eq] at inside
    exact ⟨(closed inside).trans found, by simpa [sealedAt, settled] using inside⟩
  · by_cases inside : i < s.settled.length
    · exact ⟨m, (closed inside).trans found, rfl, Part.grownSame _⟩
    · -- Behind the settled messages there is the open reply and nothing else.
      cases opened : s.reply with
      | none =>
        rw [NotedSession.messagesSettled opened] at found
        exact absurd (List.getElem?_eq_some_iff.mp found).1 inside
      | some old =>
        rw [NotedSession.messagesOfReply opened,
          List.getElem?_append_right (Nat.le_of_not_lt inside), List.getElem?_singleton] at found
        split at found <;> cases found
        rename_i last
        refine ⟨⟨.assistant, parts⟩, ?_, rfl, by simpa [opened] using grown⟩
        rw [NotedSession.messagesOfReply reply, settled,
          List.getElem?_append_right (Nat.le_of_not_lt inside), last]
        rfl

theorem grownStep {s t : Session} {a : Action} {r : Option (Event × String × Json)}
    (step : s.Step a t r) : s.Grown t := by
  cases step with
  | rest more added texts settled => exact grownAdded added settled
  | text content settled reply => exact grownReply settled reply (Part.addTextGrown content _)
  | tool phase e call running advanced settled reply =>
    exact grownReply settled reply (Part.putCallGrown (oldRunning running advanced))

theorem conversationGrows (s : Session) (actions : List Action) (kept : .clear ∉ actions) :
    s.Grown (s.run actions) :=
  runKeeps (grownSame s)
    (fun _ _ other grown => grownLater grown (grownStep (actStep _ other))) kept

theorem lateResultGrows :
    .clear ∉ ([.event (.reply "b"), .event (.tool .result (.ofId "1")), .finish,
      .event (.tool .update { ToolEvent.ofId "1" with arguments := some "x" })] : List Action) ∧
    ((ofTexts []).run [.submit "q", .event (.reply "a"), .event (.tool .start (.ofId "1"))]).Grown
      (((ofTexts []).run [.submit "q", .event (.reply "a"),
        .event (.tool .start (.ofId "1"))]).run
        [.event (.reply "b"), .event (.tool .result (.ofId "1")), .finish,
          .event (.tool .update { ToolEvent.ofId "1" with arguments := some "x" })]) :=
  ⟨by simp, conversationGrows _ _ (by simp)⟩

end Session
end ChaincodeConsole
