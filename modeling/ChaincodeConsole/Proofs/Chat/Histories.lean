import ChaincodeConsole.Proofs.Chat.Threads

/-! What the server is told at each prompt. A turn leaves its prompt and the text of its reply
behind, in this order, whatever tools it used and however it ended; a text may lie in several parts
of the reply, and an entry without text is left out. -/
namespace ChaincodeConsole

def Message.entry (m : Message) : HistoryEntry := ⟨m.role, m.text⟩

namespace Session

inductive Ending where
  | finish
  | abort
  | fail (error : String)
  deriving DecidableEq, Repr

def Ending.action : Ending → Action
  | .finish => .finish
  | .abort => .abort
  | .fail error => .fail error

structure Round where
  prompt : String
  events : List Event
  ending : Ending
  deriving DecidableEq, Repr

namespace Round

def actions (r : Round) : List Action :=
  .submit r.prompt :: (r.events.map .event ++ [r.ending.action])

def reply (r : Round) : String := String.join (r.events.filterMap Event.content?)

def entries (r : Round) : List HistoryEntry := [⟨.user, r.prompt⟩, ⟨.assistant, r.reply⟩]

end Round

def withText (entries : List HistoryEntry) : List HistoryEntry :=
  entries.filter (!Text.blank ·.content)

def sent (s : Session) : List Action → List (List HistoryEntry)
  | [] => []
  | .submit content :: rest => (s.submit content).history :: (s.submit content).sent rest
  | a :: rest => (s.act a).sent rest

theorem historyEntries (s : Session) : s.history = withText (s.messages.map Message.entry) := by
  rw [history, withText]
  induction s.messages with
  | nil => rfl
  | cons m rest ih =>
    rw [List.filterMap_cons, List.map_cons, List.filter_cons, ih]
    cases blank : Text.blank m.text <;> simp [Message.history?, Message.entry, blank]

theorem withTextAppend (a b : List HistoryEntry) :
    withText (a ++ b) = withText a ++ withText b := List.filter_append ..

theorem replyEntries (s : Session) : withText (s.messages.map Message.entry) =
    withText (s.settled.map Message.entry ++ [⟨.assistant, s.openText⟩]) := by
  rw [messages, List.map_append, withTextAppend, withTextAppend]
  congr 1
  cases opened : s.reply with
  | none =>
    -- Without an open reply there is no text, and an entry for it would be left out.
    simp [withText, openText, opened, Text.blank]
  | some parts => simp [openText, opened, Message.entry, Message.text]

theorem roundEntries (s : Session) (r : Round) :
    withText ((s.run r.actions).messages.map Message.entry) =
      withText (s.messages.map Message.entry ++ r.entries) := by
  have whole : s.run r.actions =
      ((s.submit r.prompt).run (r.events.map .event)).act r.ending.action := by
    rw [Round.actions, show s.run (.submit r.prompt :: (r.events.map .event ++ [r.ending.action])) =
      (s.submit r.prompt).run (r.events.map .event ++ [r.ending.action]) from rfl, runAppend]
    rfl
  have closed (t : Session) : (t.act r.ending.action).messages = t.messages := by
    cases r.ending <;> exact NotedSession.messagesSettled rfl
  have text := textAlone (s.submit r.prompt) r.events
  rw [show (s.submit r.prompt).openText = "" from rfl, String.empty_append] at text
  rw [whole, closed, replyEntries, (eventsKeep _ _).1, text]
  simp [submit, Round.entries, Round.reply, Message.ofText, Message.entry, Message.text]

theorem sameEntries {others rounds : List Round}
    (same : others.map (fun r => (r.prompt, r.reply)) = rounds.map (fun r => (r.prompt, r.reply)))
    (k : Nat) : (others.take k).flatMap Round.entries = (rounds.take k).flatMap Round.entries := by
  have ofPairs (rounds : List Round) : rounds.flatMap Round.entries =
      (rounds.map fun r => (r.prompt, r.reply)).flatMap fun (prompt, reply) =>
        [⟨.user, prompt⟩, ⟨.assistant, reply⟩] := by
    rw [List.flatMap_map]
    rfl
  rw [ofPairs, ofPairs, List.map_take, List.map_take, same]

theorem sentEvents (s : Session) (events : List Event) (rest : List Action) :
    s.sent (events.map .event ++ rest) = (s.run (events.map .event)).sent rest := by
  induction events generalizing s with
  | nil => rfl
  | cons e events ih => exact ih _

theorem sentRound (s : Session) (r : Round) (rest : List Action) :
    s.sent (r.actions ++ rest) = withText (s.messages.map Message.entry ++ [⟨.user, r.prompt⟩]) ::
      (s.run r.actions).sent rest := by
  have first : (s.submit r.prompt).history =
      withText (s.messages.map Message.entry ++ [⟨.user, r.prompt⟩]) := by
    rw [historyEntries, NotedSession.messagesSettled rfl]
    simp [submit, Message.ofText, Message.entry, Message.text]
  have ended (t : Session) :
      t.sent (r.ending.action :: rest) = (t.act r.ending.action).sent rest := by
    cases r.ending <;> rfl
  rw [Round.actions, List.cons_append, sent, first, List.append_assoc, sentEvents,
    List.singleton_append, ended]
  simp [run, act]

theorem sentRounds (s : Session) (rounds : List Round) :
    s.sent (rounds.flatMap Round.actions) = rounds.mapIdx fun k r =>
      withText (s.messages.map Message.entry ++ (rounds.take k).flatMap Round.entries ++
        [⟨.user, r.prompt⟩]) := by
  induction rounds generalizing s with
  | nil => rfl
  | cons r rest ih =>
    rw [List.flatMap_cons, sentRound, ih, List.mapIdx_cons]
    congr 1
    · simp
    · refine List.mapIdx_eq_mapIdx_iff.mpr fun k inside => ?_
      rw [List.take_succ_cons, List.flatMap_cons, List.append_assoc, withTextAppend, roundEntries,
        ← withTextAppend]
      simp only [List.append_assoc]

/-- With the k-th prompt goes what came before it: the seed, then the prompt and the text of the
reply of each earlier turn. Turns with the same prompts and texts send the same, whatever else
happened in them. -/
theorem historiesSent (seed : List Message) (rounds : List Round) :
    ((ofHistory seed).sent (rounds.flatMap Round.actions) = rounds.mapIdx fun k r =>
      withText (seed.map (fun m => ⟨m.role, m.text⟩) ++ (rounds.take k).flatMap Round.entries ++
        [⟨.user, r.prompt⟩])) ∧
    ∀ others : List Round,
      others.map (fun r => (r.prompt, r.reply)) = rounds.map (fun r => (r.prompt, r.reply)) →
      (ofHistory seed).sent (others.flatMap Round.actions) =
        (ofHistory seed).sent (rounds.flatMap Round.actions) := by
  have begun : (ofHistory seed).messages = seed := NotedSession.messagesSettled rfl
  refine ⟨by rw [sentRounds, begun]; rfl, fun others same => ?_⟩
  rw [sentRounds, sentRounds]
  refine List.ext_getElem? fun k => ?_
  rw [List.getElem?_mapIdx, List.getElem?_mapIdx, sameEntries same]
  have prompts : others[k]?.map (·.prompt) = rounds[k]?.map (·.prompt) := by
    have pairs := congrArg (·[k]?.map Prod.fst) same
    simpa [Function.comp_def] using pairs
  have first := congrArg (Option.map fun prompt => withText (seed.map Message.entry ++
    (rounds.take k).flatMap Round.entries ++ [⟨.user, prompt⟩])) prompts
  simpa [begun, Function.comp_def] using first

def partedRound : Round :=
  ⟨"q", [.reply "a", .tool .start (.ofId "1"), .tool .result (.ofId "1"), .reply "b"], .finish⟩

theorem failedSendsSame :
    [(⟨"q", [.stepLimit none, .reply "ab"], .fail "down"⟩ : Round), ⟨" ", [], .abort⟩].map
        (fun r => (r.prompt, r.reply)) =
      [partedRound, ⟨" ", [], .abort⟩].map (fun r => (r.prompt, r.reply)) ∧
    (ofHistory []).sent ([(⟨"q", [.stepLimit none, .reply "ab"], .fail "down"⟩ : Round),
        ⟨" ", [], .abort⟩].flatMap Round.actions) =
      [[⟨.user, "q"⟩], [⟨.user, "q"⟩, ⟨.assistant, "ab"⟩]] := by
  have pairs :
      [(⟨"q", [.stepLimit none, .reply "ab"], .fail "down"⟩ : Round), ⟨" ", [], .abort⟩].map
        (fun r => (r.prompt, r.reply)) =
      [partedRound, ⟨" ", [], .abort⟩].map (fun r => (r.prompt, r.reply)) := by decide
  obtain ⟨whole, same⟩ := historiesSent [] [partedRound, ⟨" ", [], .abort⟩]
  refine ⟨pairs, (same _ pairs).trans (whole.trans ?_)⟩
  decide

end Session
end ChaincodeConsole
