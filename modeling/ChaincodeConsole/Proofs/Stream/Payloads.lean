import ChaincodeConsole.Event
import ChaincodeConsole.Proofs.Json.Printing
import ChaincodeConsole.Proofs.Json.Records

/-! Payloads of events, in both directions. A tool event is what the members of its object are
looked up to be. An event that was decoded and holds no floating number is decoded again from
its own text. -/
namespace ChaincodeConsole

open Json (member? memberNone gathered)

def Event.Decoded (e : Event) : Prop := ∃ payload, Event.decode payload = .ok e

namespace ToolEvent

def floatFree (e : ToolEvent) : Bool := e.args.all Json.floatFree && e.result.all Json.floatFree

@[mk_iff] structure Carries (draft : ToolEvent) (members : List (String × Json)) (e : ToolEvent) :
    Prop where
  toolCallId : (member? "toolCallID" members).getD (.string draft.toolCallId) =
    .string e.toolCallId
  name : (member? "name" members).getD (.string draft.name) = .string e.name
  arguments : ((member? "arguments" members).map lenientText).getD draft.arguments = e.arguments
  args : ((member? "args" members).map present).getD draft.args = e.args
  result : ((member? "result" members).map present).getD draft.result = e.result
  error : ((member? "error" members).map lenientText).getD draft.error = e.error

theorem carriesNil {draft e : ToolEvent} : Carries draft [] e ↔ draft = e := by
  obtain ⟨id, name, arguments, args, result, error⟩ := draft
  obtain ⟨id', name', arguments', args', result', error'⟩ := e
  simp [carries_iff, member?]

theorem carriesOther {draft e : ToolEvent} {key : String} {v : Json} {rest : List (String × Json)}
    (unknown : key ∉ shape.fields) : Carries draft ((key, v) :: rest) e ↔ Carries draft rest e := by
  simp only [shape, List.mem_cons, List.not_mem_nil, or_false, not_or] at unknown
  simp [carries_iff, member?, unknown]

theorem carriesField {draft e : ToolEvent} {key : String} {v : Json} {rest : List (String × Json)}
    (known : key ∈ shape.fields) (new : key ∉ rest.map Prod.fst) :
    Carries draft ((key, v) :: rest) e ↔
      ∃ next, shape.put draft key v = .ok next ∧ Carries next rest e := by
  have absent := memberNone new
  simp only [shape, List.mem_cons, List.not_mem_nil, or_false] at known
  rcases known with rfl | rfl | rfl | rfl | rfl | rfl
  · cases v <;> simp [carries_iff, member?, absent, shape, put, Json.toString?, Except.map]
  · cases v <;> simp [carries_iff, member?, absent, shape, put, Json.toString?, Except.map]
  all_goals simp [carries_iff, member?, absent, shape, put]

theorem takesCarries {draft e : ToolEvent} {members : List (String × Json)}
    (distinct : (members.map Prod.fst).Nodup) :
    shape.Takes draft members e ↔ Carries draft members e := by
  induction members generalizing draft with
  | nil =>
    rw [carriesNil]
    constructor
    · rintro ⟨⟩
      rfl
    · rintro rfl
      exact .nil
  | cons m rest ih =>
    obtain ⟨key, v⟩ := m
    obtain ⟨new, others⟩ := List.nodup_cons.mp distinct
    by_cases known : key ∈ shape.fields
    · rw [Json.RecordShape.takesField known, carriesField known new]
      simp only [ih others]
    · rw [Json.RecordShape.takesOther known, carriesOther known, ih others]

theorem readCarries {members : List (String × Json)} {e : ToolEvent}
    (distinct : (members.map Prod.fst).Nodup) :
    shape.read (.ofId "") (.object members) = .ok e ↔
      Carries (.ofId "") members e ∧ "toolCallID" ∈ members.map Prod.fst := by
  rw [Json.RecordShape.readObject shape rfl distinct, takesCarries distinct]
  simp [shape]

/-- What a decoder gives in a tool event: values that were read, none of them null. -/
def Fits (e : ToolEvent) : Prop :=
  ∀ v, e.args = some v ∨ e.result = some v → v ≠ .null ∧ v.Fits 126

theorem presentSome {v w : Json} (kept : present v = some w) : w = v ∧ w ≠ .null := by
  unfold present at kept
  split at kept
  · cases kept
  · rename_i filled
    cases kept
    exact ⟨rfl, filled⟩

theorem lookedUp {members : List (String × Json)} {key : String} {o : Option Json} {v : Json}
    (fits : ∀ m ∈ members, m.2.Fits 126)
    (found : ((member? key members).map present).getD none = o) (held : o = some v) :
    v ≠ .null ∧ v.Fits 126 := by
  cases lookup : member? key members with
  | none =>
    rw [lookup, held] at found
    cases found
  | some w =>
    rw [lookup, held] at found
    obtain ⟨rfl, filled⟩ := presentSome found
    exact ⟨filled, fits (key, v) (Json.memberInside lookup)⟩

theorem carriesFits {members : List (String × Json)} {e : ToolEvent}
    (carries : Carries (.ofId "") members e) (fits : ∀ m ∈ members, m.2.Fits 126) : e.Fits := by
  rintro v (args | result)
  · exact lookedUp fits carries.args args
  · exact lookedUp fits carries.result result

theorem optionKey {α : Type} (key : String) (f : α → Json) (o : Option α) :
    ((o.map fun a => (key, f a)).toList.map Prod.fst).Sublist [key] := by
  cases o <;> simp

theorem keysKnown (e : ToolEvent) : (e.members.map Prod.fst).Sublist shape.fields := by
  have name : ((if e.name.isEmpty then [] else [("name", Json.string e.name)]).map
      Prod.fst).Sublist ["name"] := by
    split <;> simp
  simp only [members, List.map_cons, List.map_append]
  exact .cons_cons _ ((((name.append (optionKey _ _ _)).append (optionKey _ _ _)).append
    (optionKey _ _ _)).append (optionKey _ _ _))

theorem memberText (key field : String) (o : Option String) :
    member? key (o.map fun a => (field, Json.string a)).toList =
      if field = key then o.map Json.string else none := by
  cases o <;> simp [member?]

theorem memberValue (key field : String) (o : Option Json) :
    member? key (o.map fun a => (field, a)).toList = if field = key then o else none := by
  cases o <;> simp [member?]

theorem memberName (key name : String) :
    member? key (if name.isEmpty then [] else [("name", Json.string name)]) =
      if "name" = key ∧ name ≠ "" then some (.string name) else none := by
  by_cases empty : name = "" <;> simp [member?, empty]

theorem textRead (o : Option String) : ((o.map Json.string).map lenientText).getD none = o := by
  cases o <;> rfl

theorem valueRead {o : Option Json} (filled : ∀ v, o = some v → v ≠ .null) :
    (o.map present).getD none = o := by
  cases o with
  | none => rfl
  | some v => cases v <;> first | rfl | exact absurd rfl (filled _ rfl)

theorem membersCarry {e : ToolEvent} (fits : e.Fits) (kind : String) :
    Carries (.ofId "") (("type", .string kind) :: e.members) e := by
  have args := valueRead fun v held => (fits v (.inl held)).1
  have result := valueRead fun v held => (fits v (.inr held)).1
  constructor <;> simp only [members, member?, Json.memberAppend, memberName, memberText,
    memberValue, String.reduceEq, if_true, if_false, Option.none_or, Option.or_none, false_and,
    true_and, ofId, Option.getD_some, textRead, args, result]
  case name =>
    by_cases empty : e.name = "" <;> simp [empty]

theorem keysDistinct (e : ToolEvent) (kind : String) :
    ((("type", Json.string kind) :: e.members).map Prod.fst).Nodup :=
  List.Nodup.sublist ((keysKnown e).cons_cons "type") (by decide)

theorem readGathered {e : ToolEvent} (fits : e.Fits) (kind : String) :
    shape.read (.ofId "") (.object (gathered [] (("type", .string kind) :: e.members))) =
      .ok e := by
  have found := Json.memberGathered (keysDistinct e kind)
  have distinct : ((gathered [] (("type", .string kind) :: e.members)).map Prod.fst).Nodup :=
    Json.orderedDistinct (Json.orderedGathered List.Pairwise.nil _)
  rw [readCarries distinct]
  constructor
  · have carries := membersCarry fits kind
    rw [carries_iff] at carries ⊢
    simpa only [found] using carries
  · have id : member? "toolCallID" (("type", .string kind) :: e.members) =
        some (.string e.toolCallId) := rfl
    exact List.mem_map_of_mem (Json.memberInside ((found "toolCallID").trans id))

theorem membersFit {e : ToolEvent} (fits : e.Fits) (exact : e.floatFree = true) :
    ∀ m ∈ e.members, m.2.Fits 126 ∧ m.2.floatFree = true := by
  have text (s : String) : (Json.string s).Fits 126 ∧ (Json.string s).floatFree = true :=
    ⟨.string, rfl⟩
  simp only [floatFree, Bool.and_eq_true, Option.all_eq_true] at exact
  intro m inside
  simp only [members, List.mem_cons, List.mem_append, Option.mem_toList, Option.map_eq_some_iff]
    at inside
  rcases inside with rfl | (((name | ⟨a, -, rfl⟩) | ⟨v, held, rfl⟩) | ⟨v, held, rfl⟩) | ⟨a, -, rfl⟩
  · exact text _
  · split at name
    · cases name
    · rw [List.mem_singleton.mp name]
      exact text _
  · exact text _
  · exact ⟨(fits v (.inl held)).2, exact.1 v held⟩
  · exact ⟨(fits v (.inr held)).2, exact.2 v held⟩
  · exact text _

end ToolEvent

namespace Event

def floatFree : Event → Bool
  | .tool _ e => e.floatFree
  | _ => true

def Fits : Event → Prop
  | .tool _ e => e.Fits
  | _ => True

theorem decodeValue {payload : String} {value : Json}
    (accepted : Json.ofText? payload = some value) : decode payload = ofJson value := by
  unfold Json.ofText? at accepted
  unfold decode
  cases read : Json.ofText payload with
  | error e =>
    rw [read] at accepted
    cases accepted
  | ok v =>
    rw [read] at accepted
    cases accepted
    rfl

theorem decodedValue {payload : String} {e : Event} (decoded : decode payload = .ok e) :
    ∃ value, Json.ofText? payload = some value ∧ ofJson value = .ok e := by
  unfold decode at decoded
  cases read : Json.ofText payload with
  | error e =>
    rw [read] at decoded
    cases decoded
  | ok value =>
    rw [read] at decoded
    exact ⟨value, by rw [Json.ofText?, read]; rfl, decoded⟩

theorem readCases {value : Json} {e : Event} (read : ofJson value = .ok e) :
    ∃ members reader, value = .object members ∧ reader? (kindOf value) = some reader ∧
      reader value = .ok e := by
  unfold ofJson at read
  cases known : reader? (kindOf value) with
  | none =>
    rw [known] at read
    cases read
  | some reader =>
    rw [known] at read
    cases value with
    | object members =>
      refine ⟨members, reader, rfl, rfl, ?_⟩
      cases result : reader (.object members) with
      | error mismatch =>
        simp only [result] at read
        cases read
      | ok found =>
        simp only [result] at read
        cases read
        rfl
    | _ => cases known

theorem readerTool {kind : String} {reader : Json → Json.Shaped Event} {value : Json}
    {phase : Phase} {e : ToolEvent} (known : reader? kind = some reader)
    (read : reader value = .ok (.tool phase e)) :
    ToolEvent.shape.read (.ofId "") value = .ok e := by
  have found {α : Type} {make : α → Event} {r : Json.Shaped α} {e : Event}
      (mapped : r.map make = .ok e) : ∃ a, r = .ok a ∧ make a = e := by
    cases r with
    | error mismatch => cases mapped
    | ok a =>
      cases mapped
      exact ⟨a, rfl, rfl⟩
  unfold reader? at known
  split at known <;> cases known <;> obtain ⟨a, read, same⟩ := found read <;> cases same <;>
    exact read

theorem decodedFits {e : Event} (decoded : e.Decoded) : e.Fits := by
  obtain ⟨payload, decoded⟩ := decoded
  cases e with
  | tool phase e =>
    obtain ⟨value, accepted, read⟩ := decodedValue decoded
    obtain ⟨members, reader, rfl, known, read⟩ := readCases read
    have fits := Json.readFits accepted
    cases fits with
    | object each ordered =>
      have distinct := Json.orderedDistinct ordered
      have carries := (ToolEvent.readCarries distinct).mp (readerTool known read)
      exact ToolEvent.carriesFits carries.1 each
  | _ => trivial

theorem membersFit {e : Event} (fits : e.Fits) (exact : e.floatFree = true) :
    ∀ m ∈ ("type", Json.string e.typeName) :: e.members,
      m.2.Fits 126 ∧ m.2.floatFree = true := by
  rw [List.forall_mem_cons]
  refine ⟨⟨.string, rfl⟩, ?_⟩
  cases e with
  | reply content => simp [members, Json.floatFree, Json.Fits.string]
  | tool phase e => exact ToolEvent.membersFit fits exact
  | stepLimit message => cases message <;> simp [members, Json.floatFree, Json.Fits.string]

theorem membersRead {e : Event} (fits : e.Fits) :
    ofJson (.object (gathered [] (("type", .string e.typeName) :: e.members))) = .ok e := by
  cases e with
  | reply content => rfl
  | stepLimit message => cases message <;> rfl
  | tool phase e =>
    have kind := Json.memberGathered (e.keysDistinct (typeName (.tool phase e))) "type"
    have typed : kindOf (.object (gathered [] (("type", .string (typeName (.tool phase e))) ::
        e.members))) = typeName (.tool phase e) := by
      rw [kindOf, Json.get?, kind]
      rfl
    have read := ToolEvent.readGathered fits (typeName (.tool phase e))
    rw [members, ofJson, typed]
    cases phase <;> simp only [typeName, reader?, readTool] at read ⊢ <;> rw [read] <;> rfl

theorem decodeAgain {e : Event} (fits : e.Fits) (exact : e.floatFree = true) :
    decode e.toJson.text = .ok e := by
  have fit := membersFit fits exact
  have read := Json.objectRead (by decide) (fun m inside => (fit m inside).1) fun m inside =>
    (fit m inside).2
  rw [toJson, decodeValue read]
  exact membersRead fits

end Event
end ChaincodeConsole
