import ChaincodeConsole.Proofs.Json.Outlines
import ChaincodeConsole.Proofs.Json.Records
import ChaincodeConsole.Proofs.Text.Trimming
import ChaincodeConsole.Transcript.Record

/-! Records as lines. An identifier is read from its text, and so is a record whose time is: what
is left out of the line is what the reader takes for granted. The line has no control characters
and no white space at its ends. -/
namespace ChaincodeConsole

namespace Uuid

theorem groupsLast {g : List Char} (plain : '-' ∉ g) : groups g = [g] := by
  induction g with
  | nil => rfl
  | cons c g ih =>
    rw [groups, ih (List.not_mem_of_not_mem_cons plain)]
    exact Ne.symm (List.ne_of_not_mem_cons plain)

theorem groupsNext {g : List Char} (plain : '-' ∉ g) (rest : List Char) :
    groups (g ++ '-' :: rest) = g :: groups rest := by
  induction g with
  | nil => rfl
  | cons c g ih =>
    rw [List.cons_append, groups, ih (List.not_mem_of_not_mem_cons plain)]
    exact Ne.symm (List.ne_of_not_mem_cons plain)

theorem digitRead (d : Fin 16) : digit? (digitChar d) = some d := by
  revert d
  decide

theorem digitsRead (ds : List (Fin 16)) : (ds.map digitChar).mapM digit? = some ds := by
  induction ds with
  | nil => rfl
  | cons d ds ih => rw [List.map_cons, List.mapM_cons, digitRead, ih]; rfl

theorem digitsPlain (ds : List (Fin 16)) : '-' ∉ ds.map digitChar := by
  have each : ∀ d : Fin 16, digitChar d ≠ '-' := by decide
  simpa using fun d _ => each d

theorem hyphenUnread {cs : List Char} (hyphen : '-' ∈ cs) : cs.mapM digit? = none := by
  induction cs with
  | nil => cases hyphen
  | cons c cs ih =>
    rw [List.mapM_cons]
    rcases List.mem_cons.mp hyphen with rfl | later
    · rfl
    · rw [ih later]
      cases digit? c <;> rfl

theorem groupsRead (u : Uuid) : ofGroups? u.chars = some u := by
  obtain ⟨ds, length⟩ := u
  have plain {part : List Char} (within : part ⊆ ds.map digitChar) : '-' ∉ part := fun inside =>
    digitsPlain ds (within inside)
  have dropped (n : Nat) : (ds.map digitChar).drop n ⊆ ds.map digitChar := List.drop_subset n _
  have taken (n m : Nat) : ((ds.map digitChar).drop n).take m ⊆ ds.map digitChar :=
    List.Subset.trans (List.take_subset m _) (dropped n)
  have parts : groups (chars ⟨ds, length⟩) = [(ds.map digitChar).take 8,
      ((ds.map digitChar).drop 8).take 4, ((ds.map digitChar).drop 12).take 4,
      ((ds.map digitChar).drop 16).take 4, (ds.map digitChar).drop 20] := by
    simp only [chars, List.append_assoc, List.cons_append]
    rw [groupsNext (plain (List.take_subset 8 _)), groupsNext (plain (taken 8 4)),
      groupsNext (plain (taken 12 4)), groupsNext (plain (taken 16 4)),
      groupsLast (plain (dropped 20))]
  have next (n m : Nat) : ((ds.map digitChar).drop n).take m ++ (ds.map digitChar).drop (n + m) =
      (ds.map digitChar).drop n := by
    rw [← List.drop_drop, List.take_append_drop]
  have joined : (groups (chars ⟨ds, length⟩)).flatten = ds.map digitChar := by
    simp only [parts, List.flatten_cons, List.flatten_nil, List.append_nil]
    rw [next 16 4, next 12 4, next 8 4, List.take_append_drop]
  have sizes : (groups (chars ⟨ds, length⟩)).map List.length = groupLengths := by
    simp [parts, groupLengths, length]
  rw [ofGroups?, if_pos sizes, joined, ofDigits?, digitsRead]
  simp [length]

theorem textRead (u : Uuid) : ofText u.text = .ok u := by
  obtain ⟨d, ds, digits⟩ : ∃ d ds, u.digits = d :: ds :=
    List.exists_cons_of_length_pos (by rw [u.length_eq]; decide)
  obtain ⟨cs, first⟩ : ∃ cs, u.chars = digitChar d :: cs := by simp [chars, digits]
  have other : ∀ d : Fin 16, (digitChar d).toLower ≠ 'u' ∧ digitChar d ≠ '{' := by decide
  have bare : unwrap? u.chars = none := by
    have unmarked : unmarked? u.chars = none := by
      rw [unmarked?, if_neg]
      intro mark
      rw [first] at mark
      exact (other d).1 (List.head_eq_of_cons_eq mark)
    have unbraced : unbraced? u.chars = none := by
      rw [first, unbraced?]
      exact fun _ same => (other d).2 (List.head_eq_of_cons_eq same)
    rw [unwrap?, unmarked, unbraced]
    rfl
  have hyphened : ofDigits? u.chars = none := by
    rw [ofDigits?, hyphenUnread (by simp [chars])]
    rfl
  rw [ofText, text, String.toList_ofList, ofChars]
  simp only [bare, hyphened, groupsRead]
  rfl

end Uuid

open Json Json.Outline Json.RecordShape

namespace TurnRecord

theorem stringPart (text : String) : plainPart (quoted text) = .ok (.string text) := by
  rw [plainPart, quotedPlain]

theorem outlineRead {δ : Type} {shape : RecordShape (List Char) δ} {draft final : δ}
    {members : List (String × Json)} (plain : shape.aliases = [])
    (textual : Textual (.object members)) (distinct : (members.map Prod.fst).Nodup)
    (takes : Takes shape draft (members.map fun m => (m.1, m.2.chars)) final)
    (complete : ∀ f ∈ shape.fields, shape.required f = true → f ∈ members.map Prod.fst) :
    ofOutline shape draft (chars (.object members)) = .ok final := by
  have passed : ∀ m ∈ members, Passed m.2.chars := by
    cases textual with
    | object each => exact fun m inside => textualPassed (each m inside)
  have keys : (members.map fun m => (m.1, m.2.chars)).map Prod.fst = members.map Prod.fst := by
    rw [List.map_map]
    rfl
  rw [ofOutline, outlineObject passed]
  exact (ofMembersTakes plain (by rwa [keys])).mpr ⟨takes, by rwa [keys]⟩

end TurnRecord

namespace ToolSummary

theorem textual (t : ToolSummary) : Textual t.toJson := by
  obtain ⟨name, status, error⟩ := t
  refine .object ?_
  cases error with
  | none => simp [Textual.string]
  | some e => simp [Textual.string]

theorem stateTaken (name : String) (status : ToolStatus) :
    Takes (shapeOf TurnRecord.plainPart) empty
      [("name", chars (.string name)), ("status", chars (.string status.name))]
      ⟨name, status, none⟩ := by
  have named : (shapeOf TurnRecord.plainPart).put empty "name" (chars (.string name)) =
      .ok ⟨name, .started, none⟩ := by
    simp only [shapeOf, chars, TurnRecord.stringPart]
    rfl
  refine .field (by simp [shapeOf]) named (.field (by simp [shapeOf]) ?_ .nil)
  simp only [shapeOf, chars, TurnRecord.stringPart]
  cases status <;> rfl

theorem errorTaken (name : String) (status : ToolStatus) (error : Option String) :
    Takes (shapeOf TurnRecord.plainPart) ⟨name, status, none⟩
      ((error.map fun e => ("error", Json.string e)).toList.map fun m => (m.1, m.2.chars))
      ⟨name, status, error⟩ := by
  cases error with
  | none => exact .nil
  | some e =>
    refine .field (by simp [shapeOf]) ?_ .nil
    simp only [shapeOf, chars, TurnRecord.stringPart]
    rfl

theorem textRead (t : ToolSummary) :
    TurnRecord.ofOutline (shapeOf TurnRecord.plainPart) empty t.toJson.chars = .ok t := by
  obtain ⟨name, status, error⟩ := t
  refine TurnRecord.outlineRead rfl (textual _) ?_ ?_ ?_
  · cases error <;> simp
  · rw [List.map_append]
    exact takesAppend (stateTaken name status) (errorTaken name status error)
  · simp [shapeOf]

end ToolSummary

namespace TurnRecord

theorem toolsTextual (tools : List ToolSummary) :
    ∀ v ∈ tools.map ToolSummary.toJson, Textual v := by
  intro v inside
  obtain ⟨t, -, rfl⟩ := List.mem_map.mp inside
  exact t.textual

theorem toolsRead (tools : List ToolSummary) :
    toolsOfText (chars (.array (tools.map ToolSummary.toJson))) = .ok tools := by
  have each : ((tools.map ToolSummary.toJson).map chars).mapM
      (ofOutline (ToolSummary.shapeOf plainPart) .empty) = .ok tools := by
    induction tools with
    | nil => rfl
    | cons t tools ih =>
      rw [List.map_cons, List.map_cons, List.mapM_cons, ToolSummary.textRead, ih]
      rfl
  rw [toolsOfText, outlineArray fun v inside => textualPassed (toolsTextual tools v inside)]
  exact each

theorem textual (r : TurnRecord) : Textual r.toJson := by
  obtain ⟨session, role, content, tools, timestamp⟩ := r
  refine .object ?_
  cases tools with
  | nil => simp [Textual.string]
  | cons t tools =>
    have list := Textual.array (toolsTextual (t :: tools))
    simpa [Textual.string] using list

theorem contentTaken (session : Uuid) (role : Role) (content : String) :
    Takes (shapeOf plainPart toolsOfText) empty
      [("session", chars (.string session.text)), ("role", chars (.string role.name)),
        ("content", chars (.string content))]
      ⟨session, role, content, [], empty.timestamp⟩ := by
  have owned : (shapeOf plainPart toolsOfText).put empty "session"
      (chars (.string session.text)) = .ok { empty with session := session } := by
    simp only [shapeOf, chars, stringPart, Except.bind, put, readSession, Uuid.textRead]
    rfl
  have said : (shapeOf plainPart toolsOfText).put { empty with session := session } "role"
      (chars (.string role.name)) = .ok { empty with session := session, role := role } := by
    simp only [shapeOf, chars, stringPart]
    cases role <;> rfl
  refine .field (by simp [shapeOf]) owned (.field (by simp [shapeOf]) said
    (.field (by simp [shapeOf]) ?_ .nil))
  simp only [shapeOf, chars, stringPart]
  rfl

theorem toolsTaken (session : Uuid) (role : Role) (content : String) (tools : List ToolSummary)
    (now : Timestamp) : Takes (shapeOf plainPart toolsOfText) ⟨session, role, content, [], now⟩
      ((if tools.isEmpty then [] else
        [("tools", Json.array (tools.map ToolSummary.toJson))]).map fun m => (m.1, m.2.chars))
      ⟨session, role, content, tools, now⟩ := by
  cases tools with
  | nil => exact .nil
  | cons t tools =>
    refine .field (by simp [shapeOf]) ?_ .nil
    simp only [shapeOf, toolsRead]
    rfl

theorem timeTaken {r : TurnRecord} {now : Timestamp} (dated : Timestamp.ofText now.text = .ok now) :
    Takes (shapeOf plainPart toolsOfText) r [("timestamp", chars (.string now.text))]
      { r with timestamp := now } := by
  refine .field (by simp [shapeOf]) ?_ .nil
  simp only [shapeOf, chars, stringPart, Except.bind, put, readTimestamp, dated]
  rfl

theorem lineRead (r : TurnRecord) (dated : Timestamp.ofText r.timestamp.text = .ok r.timestamp) :
    ofText? r.line = some r := by
  have read : ofOutline (shapeOf plainPart toolsOfText) empty r.toJson.chars = .ok r := by
    obtain ⟨session, role, content, tools, timestamp⟩ := r
    refine outlineRead rfl (textual _) ?_ ?_ ?_
    · cases tools <;> simp
    · rw [List.map_append, List.map_append]
      exact takesAppend (takesAppend (contentTaken session role content)
        (toolsTaken session role content tools _)) (timeTaken dated)
    · simp [shapeOf]
  rw [ofText?, line, Json.text, String.toList_ofList, read]
  rfl

theorem linePrinted (r : TurnRecord) : Printed r.line.toList := by
  rw [line, Json.text, String.toList_ofList]
  exact textualPrinted r.textual

theorem lineTrimmed (r : TurnRecord) : Text.trim r.line = r.line := by
  rw [Text.trim, line, Json.text, String.toList_ofList]
  exact congrArg String.ofList (Text.trimKept rfl rfl _)

end TurnRecord
end ChaincodeConsole
