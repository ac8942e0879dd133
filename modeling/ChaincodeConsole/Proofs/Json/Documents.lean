import ChaincodeConsole.Proofs.Json.Endings
import ChaincodeConsole.Proofs.Json.Previews

/-! Documents lack nothing. Behind a text that is one, white space at its ends left out, no string
and no container is open, no separator stands and no token is cut; so nothing is there to be
completed. -/
namespace ChaincodeConsole.Json

namespace Reader

def Alone (r : Reader) : Prop := ∀ v, r.mode = .done v → r.stack = []

theorem aloneDeliver (v : Json) (s : List Frame) : (deliver v s).Alone := by
  intro w done
  unfold deliver at *
  split at done <;> first | rfl | cases done

theorem aloneMove {r next : Reader} {c : Char} (move : Move r c next) (alone : r.Alone) :
    next.Alone := by
  induction move with
  | space => exact alone
  | emptyList | emptyObject | closeList | closeObject | wordEnd | wordNone =>
    exact aloneDeliver _ _
  | @closeText forKey held s =>
    cases forKey with
    | true => nofun
    | false => exact aloneDeliver _ _
  | past _ _ _ ih => exact ih (aloneDeliver _ _)
  | _ => nofun

theorem aloneRun {cs : List Char} {k : Reader} (read : start.run cs = .ok k) (sound : k.Sound) :
    k.Alone :=
  soundRun (P := fun _ r => r.Alone) nofun (fun _ _ _ _ alone _ move _ => aloneMove move alone)
    read sound

theorem endAlone {cs : List Char} {k : Reader} {v : Json} (read : start.run cs = .ok k)
    (sound : k.Sound) (ended : k.atEnd = .ok v) : k.stack = [] := by
  rcases endCases ended with done | ⟨n, x, -, -, done⟩
  · exact aloneRun read sound v done
  · obtain ⟨mode, s⟩ := k
    cases s with
    | nil => rfl
    | cons frame s => cases frame <;> cases done

theorem deliverEnds (v : Json) (s : List Frame) : (deliver v s).atEnd = (deliver v s).plainEnd := by
  unfold atEnd
  rcases deliverMode v s with same | same <;> rw [same]

theorem endBefore {r next : Reader} {c : Char} {v : Json} (move : Move r c next)
    (separates : isSeparator c = true) (letters : r.Letters) (ended : next.atEnd = .ok v) :
    Text.isBlank c = true ∧ r.atEnd = .ok v := by
  induction move with
  | space _ blank => exact ⟨spaceBlank blank, ended⟩
  | openWord _ known => cases (tokenKept (literalToken known)).symm.trans separates
  | openNumber _ opened => cases (tokenKept (openToken opened)).symm.trans separates
  | word | wordEnd =>
    cases (tokenKept (letterToken ((letters _ _ rfl).2 _ List.mem_cons_self))).symm.trans separates
  | wordNone => exact absurd rfl (letters _ _ rfl).1
  | number more => cases (tokenKept (moreToken more)).symm.trans separates
  | nextItem | nextKey | spell => cases ended
  | @past n x c s r _ value _ ih =>
    obtain ⟨blank, before⟩ := ih separates (lettersDeliver _ _) ended
    refine ⟨blank, ?_⟩
    rw [deliverEnds] at before
    simpa only [atEnd, value] using before
  | _ => cases separates

theorem endBeforeRun {cs blanks : List Char} {k r : Reader} {v : Json}
    (read : start.run cs = .ok k) (rest : k.run blanks = .ok r)
    (separate : ∀ c ∈ blanks, isSeparator c = true) (ended : r.atEnd = .ok v) :
    k.atEnd = .ok v := by
  induction blanks generalizing cs k with
  | nil =>
    cases rest
    exact ended
  | cons c blanks ih =>
    obtain ⟨m, first, move, later⟩ := runCons rest
    have longer : start.run (cs ++ [c]) = .ok m := (runAppend read [c]).trans first
    have after := ih longer later fun d member => separate d (List.mem_cons_of_mem c member)
    exact (endBefore move (separate c List.mem_cons_self) (lettersRun read) after).2

theorem endFinished {cs : List Char} {k : Reader} {v : Json} (read : start.run cs = .ok k)
    (sound : k.Sound) (ended : k.atEnd = .ok v)
    (last : ∀ c ∈ cs.getLast?, isSeparator c = false) : valueRest false cs.reverse = [] := by
  have tokens : ∀ c ∈ valueRest false cs.reverse, isSeparator c = false := by
    intro c inside
    unfold valueRest at inside
    rw [if_neg Bool.false_ne_true] at inside
    split at inside
    · have null : ∀ c ∈ ['n', 'u', 'l', 'l'], inToken c = true := List.all_eq_true.mp rfl
      exact tokenKept (null c inside)
    · exact tokenKept (restTokens _ c inside)
  rcases endCases ended with done | ⟨n, x, number, value, -⟩
  · -- What finishes the text is read behind the document, where only blanks may stand.
    have alone := aloneRun read sound v done
    have finishes := (finishRead read sound (endOutside ended) last v).mpr (endShown ended)
    have mirrors := mirrorsRun read sound
    have awaits : k.awaits = false := by rw [awaits, done]
    rw [finish, List.append_assoc, yieldsAfter read, mirroredClosers mirrors, alone, List.map_nil,
      List.append_nil, mirroredAwaits mirrors (shapedRun read sound), awaits] at finishes
    obtain ⟨mode, s⟩ := k
    obtain rfl : mode = .done v := done
    obtain ⟨blank, -⟩ := doneYields finishes
    refine List.eq_nil_iff_forall_not_mem.mpr fun c inside => ?_
    have separates := blankSeparates (List.all_eq_true.mp blank c inside)
    cases (tokens c inside).symm.trans separates
  · have trail := trailRun read sound
    rw [number] at trail
    obtain ⟨token, before, same, reads⟩ := trail
    have token : ∀ c ∈ cs.reverse.head?, inToken c = true := by
      rw [same]
      cases reads with
      | first opened =>
        rintro c ⟨⟩
        exact openToken opened
      | more _ step =>
        rintro c ⟨⟩
        exact moreToken step
    have colon : cs.reverse.head? ≠ some ':' := fun head => by cases token ':' head
    rw [restLiteral colon, same, Numeral.missingEnds (Numeral.readsEnds reads), Numeral.missing,
      value]
    rfl

end Reader

open Reader

theorem endWhole {cs : List Char} {k : Reader} {v : Json} (read : start.run cs = .ok k)
    (ended : k.atEnd = .ok v) (last : ∀ c ∈ cs.getLast?, Text.isBlank c = false) : Whole cs := by
  have sound : k.Sound := liveSound read ⟨[], v, k, rfl, ended⟩
  have mirrors := mirrorsRun read sound
  have kept : ∀ c ∈ cs.getLast?, isSeparator c = false := by
    intro c ends
    by_contra separates
    rw [Bool.not_eq_false] at separates
    obtain ⟨front, rfl⟩ := List.getLast?_eq_some_iff.mp ends
    obtain ⟨m, first, move⟩ := runSnoc read
    obtain ⟨blank, -⟩ := endBefore move separates (lettersRun first) ended
    cases (last c ends).symm.trans blank
  refine ⟨mirrors.inString.trans (endOutside ended), ?_, kept, endFinished read sound ended kept⟩
  rw [mirrors.stack, brackets, endAlone read sound ended]
  split <;> rfl

/-- A document lacks nothing at its end, so there is nothing to complete. -/
theorem documentsWhole {d : String} {v : Json} (accepted : ofText? d = some v) :
    Whole (Text.trimChars d.toList) ∧ complete? d = none := by
  obtain ⟨lead, blanks, k, r, trimmed⟩ := trimmedRun (textAccepted.mp accepted) (List.prefix_refl _)
  obtain ⟨last, read, ended⟩ := textAccepted.mp accepted
  cases read.symm.trans trimmed.whole
  have whole := endWhole trimmed.kept
    (endBeforeRun trimmed.front trimmed.rest trimmed.separate ended) (Text.trimLast _)
  exact ⟨whole, if_pos (wholeCompleted whole)⟩

-- A bracket, a quote and separators in strings, a literal and a number, and white space around.
def nestedText : String :=
  " \x7b\"]\\\"\":[\"\x7d\\u00e9,:\",true,\x7b\x7d,-10]\x7d\n"

theorem nestedWhole :
    ofText? nestedText = some (.object [("]\"", .array [.string "\x7dé,:", .bool true,
      .object [], .number (.negative 10)])]) ∧
    Whole (Text.trimChars nestedText.toList) ∧ complete? nestedText = none := by
  have accepted : ofText? nestedText = some (.object [("]\"", .array [.string "\x7dé,:",
      .bool true, .object [], .number (.negative 10)])]) := by rfl
  exact ⟨accepted, documentsWhole accepted⟩

end ChaincodeConsole.Json
