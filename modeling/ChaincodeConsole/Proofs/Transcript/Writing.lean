import ChaincodeConsole.Proofs.Transcript.Reading

/-! What is written into a transcript is read from it. A message with anything in it adds one line,
and so the lines of a file that was begun with the messages are those of their records, each of
which reads as its record. -/
namespace ChaincodeConsole

def Message.hasContent (m : Message) : Bool := !Text.blank m.text || !m.calls.isEmpty

namespace Transcript

def addAll (t : Transcript) (records : List TurnRecord) : Transcript :=
  match records with
  | [] => t
  | _ => t.addBytes (records.flatMap fun r => Text.utf8 (r.line ++ "\n"))

theorem addAllAppend (t : Transcript) (front rest : List TurnRecord) :
    t.addAll (front ++ rest) = (t.addAll front).addAll rest := by
  cases front with
  | nil => rfl
  | cons r front =>
    cases rest with
    | nil => rw [List.append_nil, addAll]
    | cons s rest => simp [addAll, addBytes]

theorem addAllSession (t : Transcript) (records : List TurnRecord) :
    (t.addAll records).session = t.session := by
  cases records <;> rfl

theorem addAllRecord (t : Transcript) (r : TurnRecord) (rest : List TurnRecord) :
    t.addAll (r :: rest) = (t.appendRecord r).addAll rest := by
  have one : t.addAll [r] = t.appendRecord r := by simp [addAll, appendRecord]
  rw [← one]
  exact t.addAllAppend [r] rest

theorem addAllFile (t : Transcript) (records : List TurnRecord) :
    (t.addAll records).file = if records = [] then t.file
      else some (t.file.getD [] ++ records.flatMap fun r => Text.utf8 r.line ++ [10]) := by
  cases records with
  | nil => rfl
  | cons r records => simp [addAll, addBytes, recordBytes]

theorem blankContent (session : Uuid) (now : Timestamp) (m : Message) :
    (TurnRecord.ofMessage session now m).isBlank = !m.hasContent := by
  simp [TurnRecord.isBlank, TurnRecord.ofMessage, Message.hasContent]

def recordsOf (session : Uuid) (said : List (Timestamp × Message)) : List TurnRecord :=
  (said.filter (·.2.hasContent)).map fun p => TurnRecord.ofMessage session p.1 p.2

def appendAll (t : Transcript) (said : List (Timestamp × Message)) : Transcript :=
  said.foldl (fun t p => t.append p.1 p.2) t

theorem appendAllAdds (t : Transcript) (said : List (Timestamp × Message)) :
    t.appendAll said = t.addAll (recordsOf t.session said) := by
  induction said generalizing t with
  | nil => rfl
  | cons p rest ih =>
    have first : t.appendAll (p :: rest) = (t.append p.1 p.2).appendAll rest := rfl
    rw [first, ih, append, blankContent]
    cases content : p.2.hasContent with
    | false =>
      have records : recordsOf t.session (p :: rest) = recordsOf t.session rest := by
        simp [recordsOf, content]
      rw [records]
      rfl
    | true =>
      have records : recordsOf t.session (p :: rest) =
          TurnRecord.ofMessage t.session p.1 p.2 :: recordsOf t.session rest := by
        simp [recordsOf, content]
      rw [records, addAllRecord]
      rfl

theorem appendNow (t : Transcript) (now : Timestamp) (messages : List Message) :
    messages.foldl (·.append now ·) t =
      t.addAll ((messages.filter Message.hasContent).map (TurnRecord.ofMessage t.session now)) := by
  have all := t.appendAllAdds (messages.map (now, ·))
  rw [appendAll, recordsOf, List.foldl_map, List.filter_map, List.map_map] at all
  exact all

theorem addedLines (session : Uuid) (records : List TurnRecord) :
    fileLines ((addAll ⟨session, none⟩ records).file.getD []) =
      records.map fun r => Text.utf8 r.line := by
  have bytes : (addAll ⟨session, none⟩ records).file.getD [] =
      (records.map fun r => Text.utf8 r.line).flatMap (· ++ [10]) := by
    cases records with
    | nil => rfl
    | cons r records => simp [addAllFile, List.flatMap_map]
  have plain : ∀ line ∈ records.map fun r => Text.utf8 r.line, 10 ∉ line := by
    intro line inside
    obtain ⟨r, -, rfl⟩ := List.mem_map.mp inside
    exact recordPlain r
  have joined := Stream.linesJoined plain
  rw [bytes, fileLines, joined.1, joined.2, if_pos rfl, List.append_nil]

theorem linesRead {records : List TurnRecord}
    (dated : ∀ r ∈ records, Timestamp.ofText r.timestamp.text = .ok r.timestamp) :
    (records.map fun r => Text.utf8 r.line).map lineRecord? = records.map some ∧
      ((records.map fun r => Text.utf8 r.line).takeWhile isText).filterMap lineRecord? =
        records := by
  induction records with
  | nil => exact ⟨rfl, rfl⟩
  | cons r records ih =>
    obtain ⟨head, others⟩ := List.forall_mem_cons.mp dated
    obtain ⟨text, read⟩ := recordRead r head
    obtain ⟨each, all⟩ := ih others
    rw [List.map_cons, List.map_cons, read, each, List.takeWhile_cons_of_pos text,
      List.filterMap_cons_some read, all]
    exact ⟨rfl, rfl⟩

/-- The file that messages are appended to first has one line for each of them with anything in it,
which reads as its record, and the last records are read in the order of the messages. -/
theorem messagesRecalled (session : Uuid) (said : List (Timestamp × Message))
    (dated : ∀ p ∈ said, Timestamp.ofText p.1.text = .ok p.1) :
    fileLines ((appendAll ⟨session, none⟩ said).file.getD []) =
        (recordsOf session said).map (fun r => Text.utf8 r.line) ∧
      (fileLines ((appendAll ⟨session, none⟩ said).file.getD [])).map lineRecord? =
        (recordsOf session said).map some ∧
      ∀ n, (appendAll ⟨session, none⟩ said).recent n = (recordsOf session said).rtake n := by
  have lines := addedLines session (recordsOf session said)
  rw [← appendAllAdds ⟨session, none⟩ said] at lines
  have times : ∀ r ∈ recordsOf session said,
      Timestamp.ofText r.timestamp.text = .ok r.timestamp := by
    intro r inside
    obtain ⟨p, held, rfl⟩ := List.mem_map.mp inside
    exact dated p (List.mem_of_mem_filter held)
  obtain ⟨each, all⟩ := linesRead times
  refine ⟨lines, ?_, fun n => ?_⟩
  · rw [lines, each]
  · rw [recentRead, lines, all]

def listing : ToolCall :=
  { ToolCall.new "1" "list_files" with status := .failed, error := some "\t" }

def saidSample : List (Timestamp × Message) :=
  [(day, .ofText .user "a"), (day, .ofText .user "b\n\r\"\x01ü"), (day, .ofText .assistant " \n"),
    (day, ⟨.assistant, [.tool listing]⟩)]

theorem lastTwoRecalled : (∀ p ∈ saidSample, Timestamp.ofText p.1.text = .ok p.1) ∧
    (fileLines ((appendAll ⟨.zero, none⟩ saidSample).file.getD [])).length = 3 ∧
    (appendAll ⟨.zero, none⟩ saidSample).recent 2 =
      [⟨.zero, .user, "b\n\r\"\x01ü", [], day⟩,
        ⟨.zero, .assistant, "", [⟨"list_files", .failed, some "\t"⟩], day⟩] := by
  have dated : ∀ p ∈ saidSample, Timestamp.ofText p.1.text = .ok p.1 := by decide +kernel
  obtain ⟨lines, -, recalled⟩ := messagesRecalled .zero saidSample dated
  refine ⟨dated, ?_, ?_⟩
  · rw [lines, List.length_map]
    rfl
  · rw [recalled]
    rfl

end Transcript
end ChaincodeConsole
