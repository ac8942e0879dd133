import ChaincodeConsole.Proofs.Stream.Lines
import ChaincodeConsole.Proofs.Text.Encoding
import ChaincodeConsole.Proofs.Transcript.Records
import ChaincodeConsole.Transcript.DayFile
import Mathlib.Data.List.DropRight

/-! What is read of a transcript: the last records on its lines before the first that is no text. A
line of text without a record costs only itself; one that is no text costs all that is behind it. -/
namespace ChaincodeConsole.Transcript

def fileLines (bytes : List UInt8) : List (List UInt8) :=
  Stream.endedLines bytes ++ if Stream.openLine bytes = [] then [] else [Stream.openLine bytes]

def isText (line : List UInt8) : Bool := (Text.strict? line).isSome

def lineRecord? (line : List UInt8) : Option TurnRecord :=
  (Text.strict? line).bind fun text => TurnRecord.ofText? (Text.trim text)

theorem recordsRead (bytes : List UInt8) :
    records bytes = ((fileLines bytes).takeWhile isText).filterMap lineRecord? := by
  have lines : readable bytes = ((fileLines bytes).takeWhile isText).filterMap Text.strict? := by
    have whole : (if (Stream.openLine bytes).isEmpty then Stream.endedLines bytes
        else Stream.endedLines bytes ++ [Stream.openLine bytes]) = fileLines bytes := by
      unfold fileLines
      cases Stream.openLine bytes <;> simp
    simp only [readable, Stream.cutSplits, whole, List.takeWhile_map, List.filterMap_map]
    rfl
  rw [records, lines, List.filterMap_filterMap]
  rfl

theorem recentRead (t : Transcript) (most : Nat) :
    t.recent most =
      (((fileLines (t.file.getD [])).takeWhile isText).filterMap lineRecord?).rtake most := by
  rw [recent, recordsRead, List.rtake]

theorem fileLinesAppend {before : List UInt8} (ends : before = [] ∨ before.getLast? = some 10)
    (after : List UInt8) : fileLines (before ++ after) = fileLines before ++ fileLines after := by
  have both := Stream.linesAppend before after
  rw [Stream.openLineNil ends, List.nil_append] at both
  simp [fileLines, both, Stream.openLineNil ends]

theorem fileLinesCons {line : List UInt8} (plain : 10 ∉ line) (after : List UInt8) :
    fileLines (line ++ 10 :: after) = line :: fileLines after := by
  have first := Stream.lineAppend plain after
  rw [fileLines, first.1, first.2, List.cons_append, ← fileLines]

theorem recordBytes (r : TurnRecord) : Text.utf8 (r.line ++ "\n") = Text.utf8 r.line ++ [10] := by
  have feed : Text.utf8Chars ['\n'] = [10] := rfl
  rw [Text.utf8, String.toList_append, Text.encodedAppend, ← Text.utf8]
  exact congrArg _ feed

theorem recordPlain (r : TurnRecord) : 10 ∉ Text.utf8 r.line := by
  refine Text.encodedPlain fun c inside feed => ?_
  have shown := r.linePrinted c inside
  omega

theorem recordRead (r : TurnRecord) (dated : Timestamp.ofText r.timestamp.text = .ok r.timestamp) :
    isText (Text.utf8 r.line) = true ∧ lineRecord? (Text.utf8 r.line) = some r := by
  have whole : Text.strict? (Text.utf8 r.line) = some r.line := by
    rw [Text.utf8, Text.strictEncoded, String.ofList_toList]
  constructor
  · rw [isText, whole]
    rfl
  · rw [lineRecord?, whole, Option.bind_some, r.lineTrimmed, r.lineRead dated]

theorem recordsSkip {before line : List UInt8} (begins : before = [] ∨ before.getLast? = some 10)
    (plain : 10 ∉ line) (text : isText line = true) (unread : lineRecord? line = none)
    (after : List UInt8) : records (before ++ line ++ 10 :: after) = records (before ++ after) := by
  rw [recordsRead, recordsRead, List.append_assoc, fileLinesAppend begins, fileLinesAppend begins,
    fileLinesCons plain, List.takeWhile_append, List.takeWhile_append,
    List.takeWhile_cons_of_pos text]
  split
  · rw [List.filterMap_append, List.filterMap_cons_none unread, List.filterMap_append]
  · rfl

theorem rtakeWhole {α : Type} {front back : List α}
    (same : ∀ n, front.rtake n = (front ++ back).rtake n) : back = [] := by
  have all := same (front ++ back).length
  rw [List.rtake, List.rtake, List.length_append, Nat.sub_self,
    Nat.sub_eq_zero_of_le (Nat.le_add_right ..), List.drop_zero, List.drop_zero] at all
  exact List.self_eq_append_right.mp all

/-- Read are the last records on the lines before the first that is no text. These are the last of
all records if and only if there is none behind that line. Any other line that cannot be read may
be left out. -/
theorem recentReadable (t : Transcript) :
    (∀ most, t.recent most =
      (((fileLines (t.file.getD [])).takeWhile isText).filterMap lineRecord?).rtake most) ∧
    ((∀ most, t.recent most = ((fileLines (t.file.getD [])).filterMap lineRecord?).rtake most) ↔
      ∀ line ∈ (fileLines (t.file.getD [])).dropWhile isText, lineRecord? line = none) ∧
    ∀ before line after, t.file = some (before ++ line ++ 10 :: after) →
      (before = [] ∨ before.getLast? = some 10) → 10 ∉ line → isText line = true →
      lineRecord? line = none →
      ∀ most, t.recent most = recent { t with file := some (before ++ after) } most := by
  refine ⟨t.recentRead, ?_, ?_⟩
  · have split : (fileLines (t.file.getD [])).filterMap lineRecord? =
        ((fileLines (t.file.getD [])).takeWhile isText).filterMap lineRecord? ++
          ((fileLines (t.file.getD [])).dropWhile isText).filterMap lineRecord? := by
      rw [← List.filterMap_append, List.takeWhile_append_dropWhile]
    rw [← List.filterMap_eq_nil_iff, split]
    constructor
    · intro same
      exact rtakeWhole fun n => (t.recentRead n).symm.trans (same n)
    · intro empty most
      rw [empty, List.append_nil]
      exact t.recentRead most
  · intro before line after held begins plain text unread most
    have same := recordsSkip begins plain text unread after
    simp only [recent, held, Option.getD_some, same]

def day : Timestamp := ⟨⟨2024, 5, 6⟩, 720, 0, 0⟩

def keptRecord : TurnRecord := ⟨.zero, .user, "after", [], day⟩

def brokenDay : Transcript := ⟨.zero, some ([0xFF] ++ 10 :: Text.utf8 (keptRecord.line ++ "\n"))⟩

theorem brokenLineHides : brokenDay.recent 10 = [] ∧
    ((fileLines (brokenDay.file.getD [])).filterMap lineRecord?).rtake 10 = [keptRecord] := by
  have kept := (recordRead keptRecord (by decide +kernel)).2
  have broken : isText [0xFF] = false ∧ lineRecord? [0xFF] = none := ⟨rfl, rfl⟩
  have lines : fileLines (brokenDay.file.getD []) = [[0xFF], Text.utf8 keptRecord.line] := by
    have plain : (10 : UInt8) ∉ [0xFF] := by decide
    rw [brokenDay, Option.getD_some, recordBytes, fileLinesCons plain,
      fileLinesCons (recordPlain keptRecord)]
    rfl
  constructor
  · rw [recentRead, lines, List.takeWhile_cons_of_neg (by simp [broken.1])]
    rfl
  · rw [lines, List.filterMap_cons_none broken.2, List.filterMap_cons_some kept]
    rfl

end ChaincodeConsole.Transcript
