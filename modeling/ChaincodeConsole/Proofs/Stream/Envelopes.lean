import ChaincodeConsole.Proofs.Stream.Payloads

/-! Which payloads are events. A payload is one if it is an object of a known type whose members of
that type's fields are what the format asks of them; all other members, and the fields that are
read leniently, may be anything. What is refused is of no known type, or malformed. -/
namespace ChaincodeConsole

open Json (member?)

namespace Event

def kinds : List String :=
  ["llm", "tool_start", "tool_update", "tool_execute", "tool_result", "max_steps_reached"]

def toolKind : Phase → String
  | .start => "tool_start"
  | .update => "tool_update"
  | .execute => "tool_execute"
  | .result => "tool_result"

inductive Defaulted : Option Json → String → Prop where
  | missing : Defaulted none ""
  | given (s : String) : Defaulted (some (.string s)) s

inductive Nullable : Option Json → Option String → Prop where
  | missing : Nullable none none
  | null : Nullable (some .null) none
  | given (s : String) : Nullable (some (.string s)) (some s)

/-- A member that may be any value and is kept as text. -/
inductive Lenient : Option Json → Option String → Prop where
  | missing : Lenient none none
  | null : Lenient (some .null) none
  | string (s : String) : Lenient (some (.string s)) (some s)
  | other {v : Json} (filled : v ≠ .null) (unlike : ∀ s, v ≠ .string s) :
      Lenient (some v) (some v.text)

inductive Carried : Option Json → Option Json → Prop where
  | missing : Carried none none
  | null : Carried (some .null) none
  | value {v : Json} (filled : v ≠ .null) : Carried (some v) (some v)

inductive Enveloped (look : String → Option Json) : Event → Prop where
  | reply {content : String} (kind : look "type" = some (.string "llm"))
      (text : Defaulted (look "content") content) : Enveloped look (.reply content)
  | tool {phase : Phase} {e : ToolEvent} (kind : look "type" = some (.string (toolKind phase)))
      (id : look "toolCallID" = some (.string e.toolCallId)) (name : Defaulted (look "name") e.name)
      (arguments : Lenient (look "arguments") e.arguments) (args : Carried (look "args") e.args)
      (result : Carried (look "result") e.result) (error : Lenient (look "error") e.error) :
      Enveloped look (.tool phase e)
  | stepLimit {message : Option String} (kind : look "type" = some (.string "max_steps_reached"))
      (text : Nullable (look "message") message) : Enveloped look (.stepLimit message)

def InFormat (look : String → Option Json) : Prop :=
  (look "type" = some (.string "llm") ∧
    (look "content" = none ∨ ∃ s, look "content" = some (.string s))) ∨
  (∃ phase, look "type" = some (.string (toolKind phase)) ∧
    (∃ id, look "toolCallID" = some (.string id)) ∧
    (look "name" = none ∨ ∃ s, look "name" = some (.string s))) ∨
  (look "type" = some (.string "max_steps_reached") ∧
    (look "message" = none ∨ look "message" = some .null ∨
      ∃ s, look "message" = some (.string s)))

theorem defaultedIff {given : Option Json} {s : String} :
    Defaulted given s ↔ given.getD (.string "") = .string s := by
  constructor
  · intro told
    cases told <;> rfl
  · intro found
    cases given with
    | none => cases found; exact .missing
    | some v => cases found; exact .given s

theorem defaultedSome {given : Option Json} :
    (∃ s, Defaulted given s) ↔ given = none ∨ ∃ s, given = some (.string s) := by
  constructor
  · intro ⟨s, told⟩
    cases told with
    | missing => exact .inl rfl
    | given => exact .inr ⟨s, rfl⟩
  · intro known
    cases known with
    | inl missing => exact ⟨"", missing ▸ .missing⟩
    | inr string =>
      obtain ⟨s, given⟩ := string
      exact ⟨s, given ▸ .given s⟩

theorem nullableSome {given : Option Json} :
    (∃ o, Nullable given o) ↔
      given = none ∨ given = some .null ∨ ∃ s, given = some (.string s) := by
  constructor
  · intro ⟨o, told⟩
    cases told with
    | missing => exact .inl rfl
    | null => exact .inr (.inl rfl)
    | given s => exact .inr (.inr ⟨s, rfl⟩)
  · intro known
    rcases known with missing | null | ⟨s, given⟩
    · exact ⟨none, missing ▸ .missing⟩
    · exact ⟨none, null ▸ .null⟩
    · exact ⟨some s, given ▸ .given s⟩

theorem nullableIff {given : Option Json} {o : Option String} :
    Nullable given o ↔ given.elim (.ok none) (Json.optional Json.toString?) = .ok o := by
  constructor
  · intro told
    cases told <;> rfl
  · intro found
    cases given with
    | none => cases found; exact .missing
    | some v =>
      cases v with
      | null => cases found; exact .null
      | string s => cases found; exact .given s
      | _ => cases found

theorem lenientIff {given : Option Json} {o : Option String} :
    Lenient given o ↔ (given.map ToolEvent.lenientText).getD none = o := by
  constructor
  · intro told
    cases told with
    | missing | null | string => rfl
    | @other v filled unlike =>
      cases v with
      | null => exact absurd rfl filled
      | string s => exact absurd rfl (unlike s)
      | _ => rfl
  · intro found
    subst found
    cases given with
    | none => exact .missing
    | some v =>
      cases v with
      | null => exact .null
      | string s => exact .string s
      | _ => exact .other (by simp) (by simp)

theorem carriedIff {given o : Option Json} :
    Carried given o ↔ (given.map ToolEvent.present).getD none = o := by
  constructor
  · intro told
    cases told with
    | missing | null => rfl
    | @value v filled =>
      cases v with
      | null => exact absurd rfl filled
      | _ => rfl
  · intro found
    subst found
    cases given with
    | none => exact .missing
    | some v =>
      cases v with
      | null => exact .null
      | _ => exact .value (by simp)

theorem formatIff (look : String → Option Json) : InFormat look ↔ ∃ e, Enveloped look e := by
  constructor
  · intro known
    rcases known with ⟨kind, content⟩ | ⟨phase, kind, ⟨id, called⟩, name⟩ | ⟨kind, message⟩
    · obtain ⟨s, text⟩ := defaultedSome.mpr content
      exact ⟨_, .reply kind text⟩
    · obtain ⟨s, named⟩ := defaultedSome.mpr name
      exact ⟨.tool phase ⟨id, s, _, _, _, _⟩, .tool kind called named (lenientIff.mpr rfl)
        (carriedIff.mpr rfl) (carriedIff.mpr rfl) (lenientIff.mpr rfl)⟩
    · obtain ⟨o, text⟩ := nullableSome.mpr message
      exact ⟨_, .stepLimit kind text⟩
  · intro ⟨e, enveloped⟩
    cases enveloped with
    | reply kind text => exact .inl ⟨kind, defaultedSome.mp ⟨_, text⟩⟩
    | @tool phase e kind id name =>
      exact .inr (.inl ⟨phase, kind, ⟨_, id⟩, defaultedSome.mp ⟨_, name⟩⟩)
    | stepLimit kind text => exact .inr (.inr ⟨kind, nullableSome.mp ⟨_, text⟩⟩)

theorem takesOnly {δ : Type} {s : Json.RecordShape Json δ} {field : String}
    (only : s.fields = [field]) {members : List (String × Json)} {draft final : δ}
    (distinct : (members.map Prod.fst).Nodup) :
    s.Takes draft members final ↔
      (member? field members).elim (.ok draft) (s.put draft field) = .ok final := by
  induction members generalizing draft with
  | nil =>
    constructor
    · intro takes
      cases takes
      rfl
    · intro same
      cases same
      exact .nil
  | cons m rest ih =>
    obtain ⟨key, v⟩ := m
    obtain ⟨new, others⟩ := List.nodup_cons.mp distinct
    by_cases known : key = field
    · subst known
      have left (next : δ) : s.Takes next rest final ↔ next = final := by
        rw [ih others, Json.memberNone new, Option.elim_none, Except.ok.injEq]
      rw [Json.RecordShape.takesField (by simp [only]), member?, if_pos rfl, Option.elim_some]
      simp only [left, exists_eq_right]
    · rw [Json.RecordShape.takesOther (by simp [only, known]), ih others, member?, if_neg known]

theorem replyRead {members : List (String × Json)} {content : String}
    (distinct : (members.map Prod.fst).Nodup) :
    replyShape.read "" (.object members) = .ok content ↔
      Defaulted (member? "content" members) content := by
  rw [Json.RecordShape.readObject _ rfl distinct, takesOnly rfl distinct, defaultedIff]
  cases member? "content" members with
  | none => simp [replyShape]
  | some v => cases v <;> simp [replyShape, Json.toString?]

theorem stepLimitRead {members : List (String × Json)} {message : Option String}
    (distinct : (members.map Prod.fst).Nodup) :
    stepLimitShape.read none (.object members) = .ok message ↔
      Nullable (member? "message" members) message := by
  rw [Json.RecordShape.readObject _ rfl distinct, takesOnly rfl distinct, nullableIff]
  cases member? "message" members with
  | none => simp [stepLimitShape]
  | some v => cases v <;> simp [stepLimitShape, Json.optional, Json.toString?, Except.map]

theorem toolRead {members : List (String × Json)} {e : ToolEvent}
    (distinct : (members.map Prod.fst).Nodup) :
    ToolEvent.shape.read (.ofId "") (.object members) = .ok e ↔
      member? "toolCallID" members = some (.string e.toolCallId) ∧
      Defaulted (member? "name" members) e.name ∧
      Lenient (member? "arguments" members) e.arguments ∧
      Carried (member? "args" members) e.args ∧ Carried (member? "result" members) e.result ∧
      Lenient (member? "error" members) e.error := by
  have called : (member? "toolCallID" members).getD (.string "") = .string e.toolCallId ∧
      "toolCallID" ∈ members.map Prod.fst ↔
      member? "toolCallID" members = some (.string e.toolCallId) := by
    constructor
    · intro ⟨found, inside⟩
      obtain ⟨v, lookup⟩ := Json.memberHeld inside
      rw [lookup, Option.getD_some] at found
      rw [lookup, found]
    · intro found
      rw [found]
      exact ⟨rfl, List.mem_map_of_mem (Json.memberInside found)⟩
  rw [ToolEvent.readCarries distinct, ToolEvent.carries_iff, defaultedIff, lenientIff, carriedIff,
    carriedIff, lenientIff, ← called]
  simp only [ToolEvent.ofId]
  tauto

theorem readerNone {kind : String} : reader? kind = none ↔ kind ∉ kinds := by
  unfold reader?
  split <;> simp_all [kinds]

theorem readerCases {kind : String} {read : Json → Json.Shaped Event}
    (known : reader? kind = some read) :
    (kind = "llm" ∧ read = fun value => (replyShape.read "" value).map .reply) ∨
    (∃ phase, kind = toolKind phase ∧ read = readTool phase) ∨
    (kind = "max_steps_reached" ∧
      read = fun value => (stepLimitShape.read none value).map .stepLimit) := by
  unfold reader? at known
  split at known <;> cases known
  · exact .inl ⟨rfl, rfl⟩
  · exact .inr (.inl ⟨.start, rfl, rfl⟩)
  · exact .inr (.inl ⟨.update, rfl, rfl⟩)
  · exact .inr (.inl ⟨.execute, rfl, rfl⟩)
  · exact .inr (.inl ⟨.result, rfl, rfl⟩)
  · exact .inr (.inr ⟨rfl, rfl⟩)

theorem readerTooled (phase : Phase) : reader? (toolKind phase) = some (readTool phase) := by
  cases phase <;> rfl

theorem kindGiven {value : Json} {kind : String} (given : value.get? "type" = some (.string kind)) :
    kindOf value = kind := by
  rw [kindOf, given]
  rfl

theorem kindKnown {value : Json} (known : kindOf value ∈ kinds) :
    value.get? "type" = some (.string (kindOf value)) := by
  unfold kindOf at known ⊢
  cases given : value.get? "type" with
  | none => simp [given, kinds] at known
  | some v => cases v <;> simp_all [kinds, Json.asString?]

theorem mappedOk {α : Type} {f : α → Event} {r : Json.Shaped α} {e : Event} :
    r.map f = .ok e ↔ ∃ a, r = .ok a ∧ f a = e := by
  cases r <;> simp [Except.map]

theorem ofJsonRead {value : Json} {read : Json → Json.Shaped Event}
    (known : reader? (kindOf value) = some read) (e : Event) :
    ofJson value = .ok e ↔ read value = .ok e := by
  simp only [ofJson, known]
  cases read value <;> simp [Except.mapError]

theorem ofJsonEnveloped {members : List (String × Json)} {e : Event}
    (distinct : (members.map Prod.fst).Nodup) :
    ofJson (.object members) = .ok e ↔ Enveloped (member? · members) e := by
  constructor
  · intro read
    obtain ⟨_, reader, ⟨⟩, known, -⟩ := readCases read
    have inside : kindOf (.object members) ∈ kinds := by
      by_contra other
      cases (readerNone.mpr other).symm.trans known
    have kind := kindKnown inside
    have read := (ofJsonRead known e).mp read
    rcases readerCases known with ⟨same, rfl⟩ | ⟨phase, same, rfl⟩ | ⟨same, rfl⟩
    · obtain ⟨content, found, rfl⟩ := mappedOk.mp read
      exact .reply (same ▸ kind) ((replyRead distinct).mp found)
    · obtain ⟨event, found, rfl⟩ := mappedOk.mp read
      obtain ⟨id, name, arguments, args, result, error⟩ := (toolRead distinct).mp found
      exact .tool (same ▸ kind) id name arguments args result error
    · obtain ⟨message, found, rfl⟩ := mappedOk.mp read
      exact .stepLimit (same ▸ kind) ((stepLimitRead distinct).mp found)
  · intro enveloped
    have known {kind : String} (given : member? "type" members = some (.string kind)) :
        reader? (kindOf (.object members)) = reader? kind := congrArg reader? (kindGiven given)
    cases enveloped with
    | reply kind text =>
      exact (ofJsonRead (known kind) _).mpr (mappedOk.mpr ⟨_, (replyRead distinct).mpr text, rfl⟩)
    | tool kind id name arguments args result error =>
      refine (ofJsonRead ((known kind).trans (readerTooled _)) _).mpr (mappedOk.mpr ⟨_, ?_, rfl⟩)
      exact (toolRead distinct).mpr ⟨id, name, arguments, args, result, error⟩
    | stepLimit kind text =>
      exact (ofJsonRead (known kind) _).mpr
        (mappedOk.mpr ⟨_, (stepLimitRead distinct).mpr text, rfl⟩)

theorem kindIff {value : Json} :
    kindOf value ∈ kinds ↔ ∃ kind ∈ kinds, value.get? "type" = some (.string kind) := by
  constructor
  · intro known
    exact ⟨_, known, kindKnown known⟩
  · intro ⟨kind, known, given⟩
    rwa [kindGiven given]

theorem ofJsonCases (value : Json) :
    (kindOf value ∉ kinds ∧ ofJson value = .error (.unknownType (kindOf value))) ∨
    (kindOf value ∈ kinds ∧ ∃ e, ofJson value = .ok e) ∨
    (kindOf value ∈ kinds ∧ ∃ mismatch, ofJson value = .error (.misshapen mismatch)) := by
  by_cases typed : kindOf value ∈ kinds
  · obtain ⟨read, known⟩ := Option.ne_none_iff_exists'.mp (readerNone.not.mpr (not_not.mpr typed))
    cases result : read value with
    | ok e => exact .inr (.inl ⟨typed, e, (ofJsonRead known e).mpr result⟩)
    | error mismatch =>
      have misread : ofJson value = .error (.misshapen mismatch) := by
        simp [ofJson, known, result, Except.mapError]
      exact .inr (.inr ⟨typed, mismatch, misread⟩)
  · exact .inl ⟨typed, by simp [ofJson, readerNone.mpr typed]⟩

theorem ofJsonUnknown {value : Json} :
    (∃ kind, ofJson value = .error (.unknownType kind)) ↔ kindOf value ∉ kinds := by
  rcases ofJsonCases value with ⟨typed, same⟩ | ⟨typed, _, same⟩ | ⟨typed, _, same⟩ <;>
    simp [typed, same]

theorem ofJsonMisshapen {value : Json} :
    (∃ mismatch, ofJson value = .error (.misshapen mismatch)) ↔
      kindOf value ∈ kinds ∧ ¬∃ e, ofJson value = .ok e := by
  rcases ofJsonCases value with ⟨typed, same⟩ | ⟨typed, _, same⟩ | ⟨typed, _, same⟩ <;>
    simp [typed, same]

theorem ofJsonFault (value : Json) (fault : Json.Located) :
    ofJson value ≠ .error (.notJson fault) := by
  rcases ofJsonCases value with ⟨typed, same⟩ | ⟨typed, _, same⟩ | ⟨typed, _, same⟩ <;>
    simp [same]

theorem decodeFault {payload : String} (refused : Json.ofText? payload = none) :
    ∃ fault, decode payload = .error (.notJson fault) := by
  unfold Json.ofText? at refused
  unfold decode
  cases read : Json.ofText payload with
  | error fault => exact ⟨fault, rfl⟩
  | ok value =>
    rw [read] at refused
    cases refused

theorem acceptedEnveloped {payload : String} {value : Json}
    (accepted : Json.ofText? payload = some value) (e : Event) : ofJson value = .ok e ↔
      ∃ members, value = .object members ∧ Enveloped (member? · members) e := by
  -- The keys of an object that was read are distinct, so each field is read from one member.
  have fits := Json.readFits accepted
  cases fits with
  | object each ordered =>
    rw [ofJsonEnveloped (Json.orderedDistinct ordered)]
    simp
  | _ =>
    constructor
    · intro read
      obtain ⟨_, _, ⟨⟩, -⟩ := readCases read
    · intro ⟨_, same, _⟩
      cases same

theorem typedObject {value : Json} {key : String} {v : Json} (given : value.get? key = some v) :
    ∃ members, value = .object members := by
  cases value with
  | object members => exact ⟨members, rfl⟩
  | _ => cases given

theorem memberAgain {payload : String} {members : List (String × Json)}
    (accepted : Json.ofText? payload = some (.object members)) {key : String} {v : Json}
    (found : member? key members = some v) (exact : v.floatFree = true) :
    Json.ofText? v.text = some v := by
  have fits := Json.readFits accepted
  cases fits with
  | object each =>
    exact Json.readAgain (Json.fitsMore (each _ (Json.memberInside found)) (by decide)) exact

/-- A payload is an event exactly if it is an object in the format, and it is then the event that
its members say. It is of no known type exactly if it is a value without one, and malformed in all
other cases. What the reader takes for a value has its limits: containers nest up to 127 deep,
integers beyond 64 bits are floats and floats are finite, and no escape is half of a pair. The text
that a member is kept as reads as that member, where it has no float. -/
theorem envelopesDecoded (payload : String) :
    ((∃ e, decode payload = .ok e) ↔ ∃ members,
      Json.ofText? payload = some (.object members) ∧ InFormat (member? · members)) ∧
    (∀ e, decode payload = .ok e ↔ ∃ members,
      Json.ofText? payload = some (.object members) ∧ Enveloped (member? · members) e) ∧
    ((∃ kind, decode payload = .error (.unknownType kind)) ↔ ∃ value,
      Json.ofText? payload = some value ∧
        ∀ kind ∈ kinds, value.get? "type" ≠ some (.string kind)) ∧
    ((∃ fault, decode payload = .error (.notJson fault)) ↔ Json.ofText? payload = none) ∧
    ((∃ mismatch, decode payload = .error (.misshapen mismatch)) ↔ ∃ members,
      Json.ofText? payload = some (.object members) ∧
        (∃ kind ∈ kinds, member? "type" members = some (.string kind)) ∧
        ¬InFormat (member? · members)) ∧
    ∀ members key v, Json.ofText? payload = some (.object members) →
      member? key members = some v → v.floatFree = true → Json.ofText? v.text = some v := by
  cases accepted : Json.ofText? payload with
  | none =>
    obtain ⟨fault, refused⟩ := decodeFault accepted
    simp [refused]
  | some value =>
    rw [decodeValue accepted]
    have enveloped := acceptedEnveloped accepted
    have format : (∃ e, ofJson value = .ok e) ↔
        ∃ members, value = .object members ∧ InFormat (member? · members) := by
      simp only [enveloped, formatIff]
      rw [exists_comm]
      simp only [exists_and_left]
    simp only [Option.some.injEq, exists_eq_left', reduceCtorEq, iff_false, not_exists]
    refine ⟨format, enveloped, ?_, ofJsonFault value, ?_, ?_⟩
    · rw [ofJsonUnknown, kindIff]
      simp
    · rw [ofJsonMisshapen, kindIff, format]
      constructor
      · intro ⟨⟨kind, known, given⟩, outside⟩
        obtain ⟨members, rfl⟩ := typedObject given
        exact ⟨members, rfl, ⟨kind, known, given⟩, fun inside => outside ⟨members, rfl, inside⟩⟩
      · intro ⟨members, same, known, outside⟩
        subst same
        refine ⟨known, fun other => ?_⟩
        obtain ⟨_, ⟨⟩, inside⟩ := other
        exact outside inside
    · intro members key v same found exact
      exact memberAgain (same ▸ accepted) found exact

end Event

end ChaincodeConsole
