import ChaincodeConsole.Proofs.Chat.Runs
import Mathlib.Data.List.Nodup

/-! What the tool hook has been told in a run without clearing: the outcome of each completed
call once, in the order in which the calls were completed, and nothing of any other call. An
action reports what becomes of the call at one place, of which there was nothing to tell before,
and there is nothing else to tell of any other place. -/
namespace ChaincodeConsole

theorem ToolCall.runningUnreported {c : ToolCall} (running : c.status.isTerminal = false) :
    c.report? = none := by
  refine if_neg fun completed => ?_
  rw [completed] at running
  contradiction

namespace Part

def report? (p : Part) : Option (String × Json) := p.call?.bind ToolCall.report?

theorem addTextReport (content : String) (parts : List Part) (j : Nat) :
    ((addText content parts)[j]?).bind report? = (parts[j]?).bind report? := by
  obtain ⟨i, t, before, changed⟩ := addTextPlace content parts
  rw [changed]
  split
  · rename_i here
    subst here
    cases found : parts[j]? with
    | none => rfl
    | some p =>
      rw [(before p found).1]
      rfl
  · rfl

theorem putCallReport {call : ToolCall} {parts : List Part}
    (running : ∀ old, findCall? call.id parts = some old → old.status.isTerminal = false) :
    ∃ i : Nat, (parts[i]?).bind report? = none ∧
      ∀ j : Nat, ((putCall call parts)[j]?).bind report? =
        if j = i then call.report? else (parts[j]?).bind report? := by
  obtain ⟨i, before, changed⟩ := putCallPlace call parts
  refine ⟨i, ?_, ?_⟩
  · cases found : parts[i]? with
    | none => rfl
    | some p =>
      obtain ⟨old, rfl, -, known⟩ := before p found
      exact ToolCall.runningUnreported (running old known)
  · intro j
    rw [changed]
    split <;> rfl

end Part

theorem Message.textsUnreported {m : Message} (texts : m.calls = []) (j : Nat) :
    (m.parts[j]?).bind Part.report? = none := by
  cases found : m.parts[j]? with
  | none => rfl
  | some p =>
    have noCall := List.filterMap_eq_nil_iff.mp texts p (List.mem_of_getElem? found)
    rw [Option.bind_some, Part.report?, noCall, Option.bind_none]

namespace Session

def reportAt? (s : Session) (place : Nat × Nat) : Option (String × Json) :=
  (s.messages[place.1]?).bind fun m => (m.parts[place.2]?).bind Part.report?

theorem reportOpen (s : Session) (i j : Nat) : s.reportAt? (i, j) =
    if i = s.settled.length then ((s.reply.getD [])[j]?).bind Part.report?
    else (s.settled[i]?).bind fun m => (m.parts[j]?).bind Part.report? := by
  rw [reportAt?, messages]
  cases s.reply with
  | none =>
    rw [Option.map_none, Option.toList_none, List.append_nil]
    split
    · rename_i last
      simp [last]
    · rfl
  | some parts =>
    rw [Option.map_some, Option.toList_some, List.getElem?_append, List.getElem?_singleton]
    split
    · rename_i before
      rw [if_neg (Nat.ne_of_lt before)]
    · rename_i behind
      by_cases last : i = s.settled.length
      · rw [if_pos (by omega), if_pos last]
        rfl
      · rw [if_neg (by omega), if_neg last, List.getElem?_eq_none (Nat.le_of_not_lt behind)]

theorem restReports {s t : Session} {more : List Message} (added : t.messages = s.messages ++ more)
    (texts : ∀ m ∈ more, m.calls = []) (place : Nat × Nat) :
    t.reportAt? place = s.reportAt? place := by
  rw [reportAt?, reportAt?, added, List.getElem?_append]
  split
  · rfl
  · rename_i behind
    rw [List.getElem?_eq_none (Nat.le_of_not_lt behind)]
    cases found : more[place.1 - s.messages.length]? with
    | none => rfl
    | some m => exact Message.textsUnreported (texts m (List.mem_of_getElem? found)) place.2

theorem textReports {s t : Session} {content : String} (settled : t.settled = s.settled)
    (reply : t.reply = some (Part.addText content (s.reply.getD []))) (place : Nat × Nat) :
    t.reportAt? place = s.reportAt? place := by
  obtain ⟨i, j⟩ := place
  rw [reportOpen, reportOpen, settled, reply, Option.getD_some, Part.addTextReport]

theorem reportOutcome (call : ToolCall) (e : Event) :
    (call.report?.map (e, ·)).map Prod.snd = call.report? := by
  cases call.report? <;> rfl

theorem stepReport {s t : Session} {a : Action} {r : Option (Event × String × Json)}
    (step : s.Step a t r) : ∃ place, s.reportAt? place = none ∧
      ∀ other, t.reportAt? other =
        if other = place then r.map Prod.snd else s.reportAt? other := by
  -- An action that changes no call is counted as changing a place behind all messages.
  have quiet (same : ∀ place, t.reportAt? place = s.reportAt? place) :
      ∃ place, s.reportAt? place = none ∧
        ∀ other, t.reportAt? other = if other = place then none else s.reportAt? other := by
    have beyond : s.reportAt? (s.messages.length, 0) = none := by simp [reportAt?]
    refine ⟨(s.messages.length, 0), beyond, fun other => ?_⟩
    rw [same]
    split
    · rename_i here
      rw [here, beyond]
    · rfl
  cases step with
  | rest more added texts => exact quiet (restReports added texts)
  | text content settled reply => exact quiet (textReports settled reply)
  | tool phase e call running advanced settled reply =>
    obtain ⟨place, fresh, changed⟩ := Part.putCallReport (oldRunning running advanced)
    refine ⟨(s.settled.length, place), ?_, ?_⟩
    · rw [reportOpen, if_pos rfl, fresh]
    · rintro ⟨i, j⟩
      rw [reportOpen, reportOpen, settled, reply, Option.getD_some, changed, reportOutcome]
      by_cases last : i = s.settled.length
      · by_cases here : j = place <;> simp [last, here]
      · simp [last]

def calls (s : Session) : List ToolCall := s.messages.flatMap Message.calls

theorem callsOpen (s : Session) :
    s.calls = s.settled.flatMap Message.calls ++ Part.calls (s.reply.getD []) := by
  rw [calls, messages, List.flatMap_append]
  cases s.reply <;> simp [Message.calls]

theorem stepCompleted {s t : Session} {a : Action} {r : Option (Event × String × Json)}
    (step : s.Step a t r) : (t.calls.filterMap ToolCall.report?).Perm
      (s.calls.filterMap ToolCall.report? ++ (r.map Prod.snd).toList) := by
  cases step with
  | rest more added texts =>
    have uncalled : more.flatMap Message.calls = [] := List.flatMap_eq_nil_iff.mpr texts
    simp [calls, added, uncalled]
  | text content settled reply =>
    rw [callsOpen, callsOpen, settled, reply, Option.getD_some, Part.addTextCalls]
    simp
  | tool phase e call running advanced settled reply =>
    rw [callsOpen, callsOpen, settled, reply, Option.getD_some, reportOutcome]
    rcases Part.putCallCases call (s.reply.getD []) with
      ⟨front, old, back, split, same, first, put⟩ | ⟨-, put⟩
    · have quiet := ToolCall.runningUnreported
        (oldRunning running advanced old (split ▸ Part.foundFirst first same))
      rw [put, split]
      cases report : call.report? with
      | none => simp [quiet, report]
      | some r =>
        simp only [List.filterMap_append, Part.callsAppend, Part.callsTool, List.append_assoc,
          List.filterMap_cons, quiet, report, Option.toList_some]
        exact ((List.perm_append_singleton r _).symm.append_left _).append_left _
    · rw [put]
      cases report : call.report? <;> simp [report]

/-- The hook has been told `log`, of the calls at `places` in this order, and these are the
completed calls, each once. -/
structure Told (s : Session) (places : List (Nat × Nat)) (log : List (String × Json)) : Prop where
  once : places.Nodup
  completed : ∀ place, place ∈ places ↔ (s.reportAt? place).isSome
  outcomes : places.map s.reportAt? = log.map some
  all : log.Perm (s.calls.filterMap ToolCall.report?)

theorem stepTold {s t : Session} {a : Action} {r : Option (Event × String × Json)}
    (step : s.Step a t r) {places : List (Nat × Nat)} {log : List (String × Json)}
    (told : s.Told places log) : ∃ more, more.length = (r.map Prod.snd).toList.length ∧
      t.Told (places ++ more) (log ++ (r.map Prod.snd).toList) := by
  have all := (told.all.append_right _).trans (stepCompleted step).symm
  obtain ⟨place, fresh, changed⟩ := stepReport step
  -- There was nothing to tell of the place so far, so it is not one of those told of.
  have absent : place ∉ places := by
    rw [told.completed, fresh]
    simp
  have kept : places.map t.reportAt? = places.map s.reportAt? := by
    refine List.map_congr_left fun other inside => ?_
    rw [changed, if_neg]
    rintro rfl
    exact absent inside
  cases r with
  | none =>
    refine ⟨[], rfl, ?_⟩
    simp only [Option.map_none, Option.toList_none, List.append_nil] at all ⊢
    refine ⟨told.once, fun other => ?_, kept.trans told.outcomes, all⟩
    rw [told.completed, changed]
    split
    · rename_i here
      rw [here, fresh]
      rfl
    · rfl
  | some report =>
    refine ⟨[place], rfl, ?_, ?_, ?_, all⟩
    · rw [List.nodup_append]
      refine ⟨told.once, List.nodup_singleton _, ?_⟩
      rintro other inside here same rfl
      exact absent (List.mem_singleton.mp same ▸ inside)
    · intro other
      rw [List.mem_append, List.mem_singleton, told.completed, changed]
      by_cases here : other = place <;> simp [here]
    · rw [List.map_append, kept, told.outcomes, List.map_append]
      simp [changed]

theorem startTold (history : List (Role × String)) : (ofTexts history).Told [] [] := by
  have texts : ∀ m ∈ (ofTexts history).messages, m.calls = [] := by
    intro m inside
    simp only [ofTexts, ofHistory, empty, messages, Option.map_none, Option.toList_none,
      List.append_nil, List.mem_map] at inside
    obtain ⟨entry, -, rfl⟩ := inside
    rfl
  refine ⟨List.nodup_nil, fun place => ?_, rfl, ?_⟩
  · have added : (ofTexts history).messages = empty.messages ++ (ofTexts history).messages := rfl
    rw [restReports added texts]
    simp [reportAt?, empty, messages]
  · rw [calls, List.flatMap_eq_nil_iff.mpr texts]
    rfl

def told (s : Session) (actions : List Action) : List (String × Json) :=
  (s.reports actions).map Prod.snd

theorem toldAppend (s : Session) (front rest : List Action) :
    s.told (front ++ rest) = s.told front ++ (s.run front).told rest := by
  rw [told, reportsAppend, List.map_append]
  rfl

theorem toldOne (s : Session) (a : Action) : s.told [a] = ((s.report? a).map Prod.snd).toList := by
  rw [told, reports, reports, List.append_nil, Option.toList_map]

/-- The hook is told of the completed calls, of each once, and one order of them serves the whole
run: after any number of actions it has been told of those that are completed by then, which are
the first ones in that order. -/
theorem reportsCompletions (history : List (Role × String)) (actions : List Action)
    (kept : .clear ∉ actions) :
    ∃ order : List (Nat × Nat), order.length = ((ofTexts history).told actions).length ∧
      ∀ n, ((ofTexts history).run (actions.take n)).Told
        (order.take ((ofTexts history).told (actions.take n)).length)
        ((ofTexts history).told (actions.take n)) := by
  induction actions using List.reverseRecOn with
  | nil =>
    refine ⟨[], rfl, fun n => ?_⟩
    simpa [run, told, reports] using startTold history
  | append_singleton actions a ih =>
    simp only [List.mem_append, List.mem_singleton, not_or] at kept
    obtain ⟨order, length, early⟩ := ih kept.1
    have whole := early actions.length
    rw [List.take_length, ← length, List.take_length] at whole
    obtain ⟨more, count, last⟩ := stepTold (actStep _ (Ne.symm kept.2)) whole
    rw [← toldOne] at count last
    rw [← toldAppend] at last
    have grown : (order ++ more).length = ((ofTexts history).told (actions ++ [a])).length := by
      rw [toldAppend, List.length_append, List.length_append, length, count]
    refine ⟨order ++ more, grown, fun n => ?_⟩
    by_cases before : n ≤ actions.length
    · -- What has been told by then is a beginning of what has been told before the last action.
      have less : ((ofTexts history).told (actions.take n)).length ≤ order.length := by
        conv => rhs; rw [length, ← List.take_append_drop n actions, toldAppend, List.length_append]
        exact Nat.le_add_right _ _
      rw [List.take_append_of_le_length before, List.take_append_of_le_length less]
      exact early n
    · have all : (actions ++ [a]).take n = actions ++ [a] :=
        List.take_of_length_le (by simp; omega)
      rw [all, List.take_of_length_le (Nat.le_of_eq grown), runAppend]
      exact last

def crossedResults : List Action :=
  [.submit "q",
    .event (.tool .start { ToolEvent.ofId "1" with name := "read_file" }),
    .event (.tool .start { ToolEvent.ofId "2" with name := "delete_file" }),
    .event (.tool .result { ToolEvent.ofId "2" with result := some (.bool true) }),
    .event (.tool .result (.ofId "1")),
    .event (.tool .result { ToolEvent.ofId "2" with result := some (.bool false) }),
    .event (.tool .result { ToolEvent.ofId "3" with error := some "exit status 1" })]

theorem crossedResultsTold : .clear ∉ crossedResults ∧
    (ofTexts []).told crossedResults = [("delete_file", .bool true), ("read_file", .null)] ∧
    ∃ order : List (Nat × Nat), order.length = ((ofTexts []).told crossedResults).length ∧
      ∀ n, ((ofTexts []).run (crossedResults.take n)).Told
        (order.take ((ofTexts []).told (crossedResults.take n)).length)
        ((ofTexts []).told (crossedResults.take n)) := by
  have kept : .clear ∉ crossedResults := by simp [crossedResults]
  exact ⟨kept, rfl, reportsCompletions [] crossedResults kept⟩

end Session
end ChaincodeConsole
