import ChaincodeConsole.Chat.Message
import Mathlib.Data.List.Chain
import Mathlib.Tactic.Tauto

/-! The parts of a reply under the two operations that change them. Adding text lengthens the last
part or adds one; putting a call replaces the call with its id or adds one. Both leave every
other part where it is, and a tidy reply tidy. -/
namespace ChaincodeConsole.Part

def isText : Part → Bool
  | .text _ => true
  | .tool _ => false

/-- The parts of a reply that came in events: its calls have names of their own, and its texts
are neither empty nor next to each other. -/
structure Tidy (parts : List Part) : Prop where
  named : ∀ c ∈ calls parts, c.id ≠ ""
  distinct : ((calls parts).map (·.id)).Nodup
  apart : (parts.map isText).IsChain fun a b => ¬(a = true ∧ b = true)
  filled : ∀ t, .text t ∈ parts → t ≠ ""

@[simp] theorem callsNil : calls [] = [] := rfl

@[simp] theorem callsText (t : String) (parts : List Part) :
    calls (.text t :: parts) = calls parts := rfl

@[simp] theorem callsTool (c : ToolCall) (parts : List Part) :
    calls (.tool c :: parts) = c :: calls parts := rfl

@[simp] theorem callsAppend (a b : List Part) : calls (a ++ b) = calls a ++ calls b :=
  List.filterMap_append

theorem foundCall {id : String} {parts : List Part} {c : ToolCall}
    (found : findCall? id parts = some c) : c ∈ calls parts ∧ c.id = id :=
  ⟨List.mem_of_find?_eq_some found, by simpa using List.find?_some found⟩

theorem missingCall {id : String} {parts : List Part} (missing : findCall? id parts = none) :
    ∀ c ∈ calls parts, c.id ≠ id := by
  intro c inside same
  simpa [same] using List.find?_eq_none.mp missing c inside

theorem foundFirst {id : String} {front back : List Part} {c : ToolCall}
    (first : findCall? id front = none) (same : c.id = id) :
    findCall? id (front ++ .tool c :: back) = some c := by
  rw [findCall?] at first
  rw [findCall?, callsAppend, List.find?_append, first]
  simp [same]

theorem addTextCases (content : String) (parts : List Part) :
    (∃ front t, parts = front ++ [.text t] ∧
      addText content parts = front ++ [.text (t ++ content)]) ∨
    ((parts.map isText).getLast? ≠ some true ∧
      addText content parts = parts ++ [.text content]) := by
  -- Only a text that is the last part takes the addition, so the cases are those of `addText`.
  fun_induction addText content parts with
  | case1 => exact .inr ⟨by simp, rfl⟩
  | case2 t => exact .inl ⟨[], t, rfl, rfl⟩
  | case3 p rest single ih =>
    rcases ih with ⟨front, t, split, added⟩ | ⟨last, added⟩
    · exact .inl ⟨p :: front, t, by rw [split]; rfl, by rw [added]; rfl⟩
    · refine .inr ⟨?_, by rw [added]; rfl⟩
      cases rest with
      | nil =>
        cases p with
        | text t => exact absurd rfl (single t rfl)
        | tool c => simp [isText]
      | cons q rest => simpa [List.getLast?_cons_cons] using last

theorem putCallCases (call : ToolCall) (parts : List Part) :
    (∃ front old back, parts = front ++ .tool old :: back ∧ old.id = call.id ∧
      findCall? call.id front = none ∧ putCall call parts = front ++ .tool call :: back) ∨
    (findCall? call.id parts = none ∧ putCall call parts = parts ++ [.tool call]) := by
  induction parts with
  | nil => exact .inr ⟨rfl, rfl⟩
  | cons p rest ih =>
    cases p with
    | text t =>
      rcases ih with ⟨front, old, back, split, same, first, put⟩ | ⟨missing, put⟩
      · refine .inl ⟨.text t :: front, old, back, ?_, same, first, ?_⟩
        · rw [split]; rfl
        · rw [putCall, put]; rfl
      · exact .inr ⟨missing, by rw [putCall, put]; rfl⟩
    | tool c =>
      by_cases same : c.id = call.id
      · exact .inl ⟨[], c, rest, rfl, same, rfl, by simp [putCall, same]⟩
      · -- A call of another id is passed by, in the search as in the replacement.
        have skip : ∀ l, findCall? call.id (.tool c :: l) = findCall? call.id l := by
          simp [findCall?, same]
        rcases ih with ⟨front, old, back, split, named, first, put⟩ | ⟨missing, put⟩
        · refine .inl ⟨.tool c :: front, old, back, ?_, named, (skip front).trans first, ?_⟩
          · rw [split]; rfl
          · rw [putCall, if_neg same, put]; rfl
        · exact .inr ⟨(skip rest).trans missing, by rw [putCall, if_neg same, put]; rfl⟩

theorem putCallAt {call old : ToolCall} {front : List Part} (back : List Part)
    (first : findCall? call.id front = none) (same : old.id = call.id) :
    putCall call (front ++ .tool old :: back) = front ++ .tool call :: back := by
  induction front with
  | nil => simp [putCall, same]
  | cons p rest ih =>
    cases p with
    | text t => exact congrArg (.text t :: ·) (ih first)
    | tool c =>
      have other : c.id ≠ call.id := missingCall first c List.mem_cons_self
      have later : findCall? call.id rest = none := by simpa [findCall?, other] using first
      rw [List.cons_append, putCall, if_neg other, ih later, List.cons_append]

theorem putCallNew {call : ToolCall} {parts : List Part}
    (missing : findCall? call.id parts = none) : putCall call parts = parts ++ [.tool call] := by
  rcases putCallCases call parts with ⟨front, old, back, split, same, first, -⟩ | ⟨-, put⟩
  · rw [split, foundFirst first same] at missing
    cases missing
  · exact put

theorem exchangedAt (front back : List Part) (p q : Part) (j : Nat) :
    (front ++ q :: back)[j]? = if j = front.length then some q else (front ++ p :: back)[j]? := by
  have set : front ++ q :: back = (front ++ p :: back).set front.length q := by simp
  rw [set, List.getElem?_set]
  by_cases here : j = front.length
  · simp [here]
  · simp [here, Ne.symm here]

theorem addedAt (parts : List Part) (q : Part) (j : Nat) :
    (parts ++ [q])[j]? = if j = parts.length then some q else parts[j]? := by
  rw [List.getElem?_append, List.getElem?_singleton]
  split
  · rename_i before
    rw [if_neg (Nat.ne_of_lt before)]
  · rename_i behind
    rw [List.getElem?_eq_none (Nat.le_of_not_lt behind)]
    by_cases here : j = parts.length
    · simp [here]
    · rw [if_neg here, if_neg (by omega)]

theorem addTextPlace (content : String) (parts : List Part) :
    ∃ (i : Nat) (t : String), (∀ p, parts[i]? = some p → p = .text t ∧ i + 1 = parts.length) ∧
      ∀ j : Nat, (addText content parts)[j]? =
        if j = i then some (.text (t ++ content)) else parts[j]? := by
  rcases addTextCases content parts with ⟨front, t, split, added⟩ | ⟨-, added⟩
  · refine ⟨front.length, t, ?_, ?_⟩
    · intro p found
      simp only [split, List.getElem?_append_right (Nat.le_refl _), Nat.sub_self,
        List.getElem?_cons_zero, Option.some.injEq] at found
      exact ⟨found.symm, by simp [split]⟩
    · intro j
      rw [added, split]
      exact exchangedAt front [] _ _ j
  · refine ⟨parts.length, "", ?_, ?_⟩
    · intro p found
      simp at found
    · intro j
      rw [added, addedAt, String.empty_append]

theorem putCallPlace (call : ToolCall) (parts : List Part) :
    ∃ i : Nat, (∀ p, parts[i]? = some p →
        ∃ old, p = .tool old ∧ old.id = call.id ∧ findCall? call.id parts = some old) ∧
      ∀ j : Nat, (putCall call parts)[j]? = if j = i then some (.tool call) else parts[j]? := by
  rcases putCallCases call parts with ⟨front, old, back, split, same, first, put⟩ | ⟨-, put⟩
  · refine ⟨front.length, ?_, ?_⟩
    · intro p found
      simp only [split, List.getElem?_append_right (Nat.le_refl _), Nat.sub_self,
        List.getElem?_cons_zero, Option.some.injEq] at found
      exact ⟨old, found.symm, same, split ▸ foundFirst first same⟩
    · intro j
      rw [put, split]
      exact exchangedAt front back _ _ j
  · refine ⟨parts.length, ?_, ?_⟩
    · intro p found
      simp at found
    · intro j
      rw [put, addedAt]

theorem addTextCalls (content : String) (parts : List Part) :
    calls (addText content parts) = calls parts := by
  rcases addTextCases content parts with ⟨front, t, split, added⟩ | ⟨-, added⟩
  · rw [added, split, callsAppend, callsAppend, callsText, callsText]
  · rw [added, callsAppend, callsText, callsNil, List.append_nil]

theorem addTextNonempty (content : String) (parts : List Part) : addText content parts ≠ [] := by
  rcases addTextCases content parts with ⟨front, t, -, added⟩ | ⟨-, added⟩ <;> simp [added]

theorem putCallNonempty (call : ToolCall) (parts : List Part) : putCall call parts ≠ [] := by
  rcases putCallCases call parts with ⟨front, old, back, -, -, -, put⟩ | ⟨-, put⟩ <;> simp [put]

theorem putCallMem {call c : ToolCall} {parts : List Part}
    (inside : c ∈ calls (putCall call parts)) : c = call ∨ c ∈ calls parts := by
  rcases putCallCases call parts with ⟨front, old, back, split, -, -, put⟩ | ⟨-, put⟩
  · rw [put, callsAppend, callsTool, List.mem_append, List.mem_cons] at inside
    rw [split, callsAppend, callsTool, List.mem_append, List.mem_cons]
    tauto
  · rw [put, callsAppend, callsTool, callsNil, List.mem_append, List.mem_singleton] at inside
    tauto

theorem putCallFound (call : ToolCall) (parts : List Part) :
    findCall? call.id (putCall call parts) = some call := by
  rcases putCallCases call parts with ⟨front, old, back, -, -, first, put⟩ | ⟨missing, put⟩
  · rw [put]
    exact foundFirst first rfl
  · rw [put]
    exact foundFirst missing rfl

theorem addTextFound (content id : String) (parts : List Part) :
    findCall? id (addText content parts) = findCall? id parts := by
  rw [findCall?, addTextCalls]
  rfl

theorem putCallOther {call : ToolCall} {id : String} (other : call.id ≠ id) (parts : List Part) :
    findCall? id (putCall call parts) = findCall? id parts := by
  rcases putCallCases call parts with ⟨front, old, back, split, same, -, put⟩ | ⟨-, put⟩
  · rw [put, split]
    simp [findCall?, same, other]
  · rw [put]
    simp [findCall?, other]

@[simp] theorem joinedNil : joinedText [] = "" := rfl

@[simp] theorem joinedOfText (t : String) (parts : List Part) :
    joinedText (.text t :: parts) = t ++ joinedText parts := String.join_cons

@[simp] theorem joinedOfTool (c : ToolCall) (parts : List Part) :
    joinedText (.tool c :: parts) = joinedText parts := rfl

@[simp] theorem joinedAppend (a b : List Part) :
    joinedText (a ++ b) = joinedText a ++ joinedText b := by
  rw [joinedText, List.filterMap_append, String.join_append]
  rfl

theorem addTextJoined (content : String) (parts : List Part) :
    joinedText (addText content parts) = joinedText parts ++ content := by
  rcases addTextCases content parts with ⟨front, t, split, added⟩ | ⟨-, added⟩
  · rw [added, split]
    simp [String.append_assoc]
  · rw [added]
    simp

theorem putCallJoined (call : ToolCall) (parts : List Part) :
    joinedText (putCall call parts) = joinedText parts := by
  rcases putCallCases call parts with ⟨front, old, back, split, -, -, put⟩ | ⟨-, put⟩
  · rw [put, split]
    simp
  · rw [put]
    simp

theorem tidyAddText {content : String} (filled : content ≠ "") {parts : List Part}
    (tidy : Tidy parts) : Tidy (addText content parts) := by
  have named := tidy.named
  have distinct := tidy.distinct
  rw [← addTextCalls content parts] at named distinct
  refine ⟨named, distinct, ?_, ?_⟩
  · rcases addTextCases content parts with ⟨front, t, split, added⟩ | ⟨last, added⟩
    · have apart := tidy.apart
      rw [split] at apart
      simpa [added, isText] using apart
    · rw [added, List.map_append, List.isChain_append]
      refine ⟨tidy.apart, by simp, ?_⟩
      intro a ends b starts
      rintro ⟨rfl, -⟩
      exact last ends
  · intro u inside
    rcases addTextCases content parts with ⟨front, t, split, added⟩ | ⟨-, added⟩
    · rw [added, List.mem_append, List.mem_singleton] at inside
      rcases inside with old | new
      · exact tidy.filled u (by rw [split]; exact List.mem_append_left _ old)
      · cases new
        simp [filled]
    · rw [added, List.mem_append, List.mem_singleton] at inside
      rcases inside with old | new
      · exact tidy.filled u old
      · cases new
        exact filled

theorem tidyPutCall {call : ToolCall} (named : call.id ≠ "") {parts : List Part}
    (tidy : Tidy parts) : Tidy (putCall call parts) := by
  have names : ∀ c ∈ calls (putCall call parts), c.id ≠ "" := by
    intro c inside
    rcases putCallMem inside with rfl | old
    · exact named
    · exact tidy.named c old
  rcases putCallCases call parts with ⟨front, old, back, split, same, -, put⟩ | ⟨missing, put⟩
  · obtain ⟨-, distinct, apart, filled⟩ := tidy
    rw [split] at distinct apart filled
    rw [put] at names ⊢
    refine ⟨names, ?_, ?_, ?_⟩
    · simpa [same] using distinct
    · simpa [isText] using apart
    · intro t inside
      exact filled t (by simpa using inside)
  · rw [put] at names ⊢
    refine ⟨names, ?_, ?_, ?_⟩
    · rw [callsAppend, List.map_append, List.nodup_append]
      refine ⟨tidy.distinct, by simp, ?_⟩
      intro a old b new
      obtain ⟨c, inside, rfl⟩ := List.mem_map.mp old
      rw [List.mem_singleton.mp new]
      exact missingCall missing c inside
    · rw [List.map_append, List.isChain_append]
      refine ⟨tidy.apart, by simp, ?_⟩
      intro a _ b starts
      simp only [List.map_cons, List.map_nil, List.head?_cons, Option.mem_def,
        Option.some.injEq] at starts
      simp [← starts, isText]
    · intro t inside
      exact tidy.filled t (by simpa using inside)

theorem tidyNil : Tidy [] := ⟨by simp, by simp, by simp, by simp⟩

end ChaincodeConsole.Part
