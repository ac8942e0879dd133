import ChaincodeConsole.Proofs.Text.Trimming
import ChaincodeConsole.Stream.Line

/-! Lines by splitting: the pieces between the line feeds of all bytes received so far. The last
piece is the line that has not ended. The buffer hands out exactly the others, each once,
whatever the chunks, and holds the last one. -/
namespace ChaincodeConsole.Stream

def endedLines (bytes : List UInt8) : List (List UInt8) := (bytes.splitOn 10).dropLast

def openLine (bytes : List UInt8) : List UInt8 := (bytes.splitOn 10).getLastD []

def withoutReturn (line : List UInt8) : List UInt8 :=
  if line.getLast? = some 13 then line.dropLast else line

def carriesData (text : List Char) : Bool :=
  dataMark.isPrefixOf text && !(text.drop 5).all Text.isBlank &&
    Text.trimChars (text.drop 5) != endMark

def carriesPayload (line : List UInt8) : Bool :=
  carriesData (Text.lossyChars (withoutReturn line))

def linePayload (line : List UInt8) : Option String :=
  if carriesPayload line then
    some (String.ofList (Text.trimChars ((Text.lossyChars (withoutReturn line)).drop 5)))
  else none

theorem cutFromAppend (held a b : List UInt8) :
    cutFrom held (a ++ b) =
      ((cutFrom held a).1 ++ (cutFrom (cutFrom held a).2.reverse b).1,
        (cutFrom (cutFrom held a).2.reverse b).2) := by
  induction a generalizing held with
  | nil => simp [cutFrom]
  | cons x a ih =>
    by_cases feed : x = 10
    · simp only [List.cons_append, cutFrom, if_pos feed, ih]
    · simp only [List.cons_append, cutFrom, if_neg feed, ih]

theorem cutFromSplits (held : List UInt8) (plain : 10 ∉ held) (bytes : List UInt8) :
    (held.reverse ++ bytes).splitOn 10 = (cutFrom held bytes).1 ++ [(cutFrom held bytes).2] := by
  -- The held bytes have no line feed, so they all belong to the first piece.
  induction bytes generalizing held with
  | nil =>
    have whole : held.reverse.splitOn 10 = [held.reverse] :=
      List.splitOn_eq_singleton (by simpa using plain)
    simp [cutFrom, whole]
  | cons b bytes ih =>
    by_cases feed : b = 10
    · subst feed
      have first : (held.reverse ++ 10 :: bytes).splitOn 10 = held.reverse :: bytes.splitOn 10 :=
        List.splitOn_append_cons_self_of_not_mem (by simpa using plain) bytes
      rw [first, cutFrom, if_pos rfl]
      simpa using ih [] (by simp)
    · have grown := ih (b :: held) (by simp [Ne.symm feed, plain])
      rw [cutFrom, if_neg feed, ← grown]
      simp

theorem cutSplits (bytes : List UInt8) : cut bytes = (endedLines bytes, openLine bytes) := by
  have whole : bytes.splitOn 10 = (cut bytes).1 ++ [(cut bytes).2] :=
    cutFromSplits [] (by simp) bytes
  simp [endedLines, openLine, whole]

theorem cutFromOpen (held : List UInt8) (plain : 10 ∉ held) (bytes : List UInt8) :
    10 ∉ (cutFrom held bytes).2 := by
  induction bytes generalizing held with
  | nil => simpa [cutFrom] using plain
  | cons b bytes ih =>
    by_cases feed : b = 10
    · simpa only [cutFrom, if_pos feed] using ih [] (by simp)
    · simpa only [cutFrom, if_neg feed] using ih (b :: held) (by simp [Ne.symm feed, plain])

theorem openLinePlain (bytes : List UInt8) : 10 ∉ openLine bytes := by
  have plain := cutFromOpen [] (by simp) bytes
  rwa [show cutFrom [] bytes = _ from cutSplits bytes] at plain

theorem cutOpen {line : List UInt8} (plain : 10 ∉ line) (bytes : List UInt8) :
    cutFrom line.reverse bytes = cut (line ++ bytes) := by
  have split := cutFromSplits line.reverse (by simpa using plain) bytes
  rw [List.reverse_reverse] at split
  rw [cutSplits, endedLines, openLine, split]
  simp

theorem linesAppend (a b : List UInt8) :
    endedLines (a ++ b) = endedLines a ++ endedLines (openLine a ++ b) ∧
      openLine (a ++ b) = openLine (openLine a ++ b) := by
  have both := cutFromAppend [] a b
  rw [show cutFrom [] a = (endedLines a, openLine a) from cutSplits a,
    cutOpen (openLinePlain a), show cutFrom [] (a ++ b) = _ from cutSplits (a ++ b),
    cutSplits] at both
  exact ⟨congrArg Prod.fst both, congrArg Prod.snd both⟩

theorem lineAppend {line : List UInt8} (plain : 10 ∉ line) (rest : List UInt8) :
    endedLines (line ++ 10 :: rest) = line :: endedLines rest ∧
      openLine (line ++ 10 :: rest) = openLine rest := by
  have first := List.splitOn_append_cons_self_of_not_mem plain rest
  have filled : rest.splitOn 10 ≠ [] := List.splitOn_ne_nil 10 rest
  constructor
  · rw [endedLines, first, List.dropLast_cons_of_ne_nil filled, endedLines]
  · rw [openLine, first, openLine, List.getLastD_eq_getLast?, List.getLastD_eq_getLast?,
      List.getLast?_cons, List.getLast?_eq_some_getLast filled]
    rfl

theorem linesJoined {lines : List (List UInt8)} (plain : ∀ line ∈ lines, 10 ∉ line) :
    endedLines (lines.flatMap (· ++ [10])) = lines ∧ openLine (lines.flatMap (· ++ [10])) = [] := by
  induction lines with
  | nil => exact ⟨rfl, rfl⟩
  | cons line lines ih =>
    obtain ⟨head, others⟩ := List.forall_mem_cons.mp plain
    have first := lineAppend head (lines.flatMap (· ++ [10]))
    obtain ⟨lines, rest⟩ := ih others
    rw [List.flatMap_cons, List.append_assoc, List.singleton_append, first.1, first.2, lines, rest]
    exact ⟨rfl, rfl⟩

theorem openLineNil {bytes : List UInt8} (ends : bytes = [] ∨ bytes.getLast? = some 10) :
    openLine bytes = [] := by
  rcases ends with rfl | feed
  · rfl
  · obtain ⟨front, rfl⟩ := List.getLast?_eq_some_iff.mp feed
    simp [openLine, List.splitOn_append_cons_self]

theorem lineSkipped {before line : List UInt8} (begins : before = [] ∨ before.getLast? = some 10)
    (plain : 10 ∉ line) (after : List UInt8) :
    endedLines (before ++ line ++ 10 :: after) = endedLines before ++ line :: endedLines after ∧
      endedLines (before ++ after) = endedLines before ++ endedLines after ∧
      openLine (before ++ line ++ 10 :: after) = openLine (before ++ after) := by
  have kept := linesAppend before after
  have full := linesAppend before (line ++ 10 :: after)
  rw [openLineNil begins, List.nil_append] at kept full
  rw [(lineAppend plain after).1, (lineAppend plain after).2] at full
  rw [List.append_assoc]
  exact ⟨full.1, kept.1, full.2.trans kept.2.symm⟩

theorem lineTextReturn (line : List UInt8) : lineText line = Text.lossy (withoutReturn line) := by
  rcases List.eq_nil_or_concat line with rfl | ⟨front, last, rfl⟩
  · rfl
  · by_cases back : last = 13
    · simp [lineText, withoutReturn, Text.dropOne, back]
    · simp [lineText, withoutReturn, Text.dropOne, back]

theorem payloadOfLine (line : List UInt8) : payload? (lineText line) = linePayload line := by
  rw [lineTextReturn]
  simp only [payload?, linePayload, carriesPayload, carriesData, Text.lossy, String.toList_ofList,
    Text.afterChars?]
  by_cases marked : dataMark.isPrefixOf (Text.lossyChars (withoutReturn line))
  · simp only [marked, if_true, Bool.true_and, show dataMark.length = 5 from rfl, Text.trimNil]
    generalize (Text.lossyChars (withoutReturn line)).drop 5 = rest
    cases blank : rest.all Text.isBlank <;> by_cases ended : Text.trimChars rest = endMark <;>
      simp [ended]
  · simp [marked]

namespace Buffer

theorem pushLines {b : Buffer} {bytes : List UInt8} (held : b.pending = openLine bytes)
    (chunk : List UInt8) :
    b.push chunk =
      ((endedLines (openLine bytes ++ chunk)).map lineText, ⟨openLine (bytes ++ chunk)⟩) := by
  simp only [push, held, cutSplits, (linesAppend bytes chunk).2]

theorem finishLines (b : Buffer) :
    b.finish = (if b.pending = [] then none else some (lineText b.pending), empty) := by
  obtain ⟨pending⟩ := b
  cases pending <;> simp [finish, empty]

end Buffer
end ChaincodeConsole.Stream
