import ChaincodeConsole.Json.Completion
import ChaincodeConsole.Proofs.Json.Runs
import ChaincodeConsole.Proofs.Json.Tokens

/-! The scan follows the reader: after a text that the reader takes and some document continues,
its marks tell which containers are open, whether a string is and whether that is a key. -/
namespace ChaincodeConsole.Json

def Frame.bracket : Frame → Bracket
  | .list _ => .array
  | .record _ | .member _ _ => .object false

namespace Reader

def brackets (r : Reader) : List Bracket :=
  match r.mode with
  | .colon _ => Scan.markColon true (r.stack.map Frame.bracket)
  | _ => r.stack.map Frame.bracket

def inText (r : Reader) : Bool :=
  match r.mode with
  | .text _ _ _ => true
  | _ => false

def escaping (r : Reader) : Bool :=
  match r.mode with
  | .text _ _ .open | .text _ _ (.pairLetter _) => true
  | _ => false

def expectsKey (r : Reader) : Bool :=
  match r.mode with
  | .firstKey | .key | .text true _ _ => true
  | _ => false

theorem outsideDeliver (v : Json) (s : List Frame) : (deliver v s).inText = false := by
  unfold inText
  rcases deliverMode v s with same | same <;> rw [same]

end Reader

/-- The marks of a scan are those of the reader. Whether the last string was a key matters
while it is open only. -/
structure Mirrors (r : Reader) (s : Scan) : Prop where
  stack : s.stack = r.brackets
  inString : s.inString = r.inText
  escaped : s.escaped = r.escaping
  expectKey : s.expectKey = r.expectsKey
  stringIsKey : r.inText = true → s.stringIsKey = r.expectsKey

namespace Scan

theorem stepPlain {s : Scan} {c : Char} (outside : s.inString = false)
    (plain : c ∉ ['"', '{', '[', '}', ']', ':', ',']) : s.step c = s := by
  simp only [List.mem_cons, List.not_mem_nil, or_false, not_or] at plain
  unfold step
  rw [if_neg (by simp [outside])]
  split <;> simp_all

theorem stepText {s : Scan} {c : Char} (inside : s.inString = true) (free : s.escaped = false)
    (slash : c ≠ '\\') (quote : c ≠ '"') : s.step c = s := by
  simp [step, inside, free, slash, quote]

theorem stepSlash {s : Scan} (inside : s.inString = true) (free : s.escaped = false) :
    s.step '\\' = { s with escaped := true } := by
  simp [step, inside, free]

theorem stepEscaped {s : Scan} (c : Char) (inside : s.inString = true)
    (escaped : s.escaped = true) : s.step c = { s with escaped := false } := by
  simp [step, inside, escaped]

theorem stepQuote {s : Scan} (inside : s.inString = true) (free : s.escaped = false) :
    s.step '"' = s.closeString := by
  simp [step, inside, free]

end Scan

open Reader

theorem mirrorsDeliver {v : Json} {stack : List Frame} {s : Scan} :
    Mirrors (deliver v stack) s ↔ s.stack = stack.map Frame.bracket ∧ s.inString = false ∧
      s.escaped = false ∧ s.expectKey = false := by
  constructor
  · rintro ⟨brackets, inString, escaped, expectKey, -⟩
    unfold deliver at *
    split at brackets <;> exact ⟨brackets, inString, escaped, expectKey⟩
  · rintro ⟨brackets, inString, escaped, expectKey⟩
    unfold deliver
    split <;> exact ⟨brackets, inString, escaped, expectKey, nofun⟩

theorem hexPlain {c : Char} {d : Nat} (digit : Text.hexValue? c = some d) :
    c ≠ '\\' ∧ c ≠ '"' := by
  constructor <;> rintro rfl <;> cases digit

theorem mirrorsSpells {held next : List Char} {e f : Escape} {c : Char} {forKey : Bool}
    {stack : List Frame} {s : Scan} (mirrors : Mirrors ⟨.text forKey held e, stack⟩ s)
    (spelled : Spells held e c next f) (sound : Sound ⟨.text forKey next f, stack⟩) :
    Mirrors ⟨.text forKey next f, stack⟩ (s.step c) := by
  obtain ⟨brackets, inside, escaped, expectKey, stringIsKey⟩ := mirrors
  have same : Reader.expectsKey ⟨.text forKey next f, stack⟩ =
      Reader.expectsKey ⟨.text forKey held e, stack⟩ := by cases forKey <;> rfl
  rw [← same] at expectKey stringIsKey
  cases spelled with
  | plain quote slash =>
    rw [Scan.stepText inside escaped slash quote]
    exact ⟨brackets, inside, escaped, expectKey, stringIsKey⟩
  | digit digit _ | scalar digit _ | lead digit _ _ _ | pair digit _ =>
    rw [Scan.stepText inside escaped (hexPlain digit).1 (hexPlain digit).2]
    exact ⟨brackets, inside, escaped, expectKey, stringIsKey⟩
  | slash | pairSlash =>
    rw [Scan.stepSlash inside escaped]
    exact ⟨brackets, inside, rfl, expectKey, stringIsKey⟩
  | letter _ | unit | pairLetter =>
    rw [Scan.stepEscaped _ inside escaped]
    exact ⟨brackets, inside, rfl, expectKey, stringIsKey⟩
  -- The scan would not notice a wrong digit, but the reader never recovers from it.
  | lost bad => exact absurd rfl (sound.digits _ _ _ _)

theorem spacePlain {c : Char} (space : isSpace c = true) :
    c ∉ ['"', '{', '[', '}', ']', ':', ','] := by
  simp only [isSpace, Bool.or_eq_true, beq_iff_eq] at space
  rcases space with ((rfl | rfl) | rfl) | rfl <;> decide

def inToken (c : Char) : Bool := c.isDigit || isLetter c || c == '+' || c == '-' || c == '.'

theorem tokenPlain {c : Char} (token : inToken c = true) :
    c ∉ ['"', '{', '[', '}', ']', ':', ','] := by
  intro marker
  simp only [List.mem_cons, List.not_mem_nil, or_false] at marker
  rcases marker with rfl | rfl | rfl | rfl | rfl | rfl | rfl <;> cases token

theorem digitToken {c : Char} {d : Nat} (digit : Numeral.digit? c = some d) :
    inToken c = true := by
  simp [inToken, Numeral.digitIs digit]

theorem letterToken {c : Char} (letter : isLetter c = true) : inToken c = true := by
  simp [inToken, letter]

theorem literalToken {c : Char} {left : List Char} {v : Json} (known : (c, left, v) ∈ literals) :
    inToken c = true := by
  simp only [literals, List.mem_cons, Prod.mk.injEq, List.not_mem_nil, or_false] at known
  rcases known with ⟨rfl, -, -⟩ | ⟨rfl, -, -⟩ | ⟨rfl, -, -⟩ <;> rfl

theorem openToken {c : Char} {n : Numeral} (opened : Numeral.open? c = some n) :
    inToken c = true := by
  unfold Numeral.open? at opened
  split at opened
  · rename_i minus
    rw [minus]
    rfl
  · obtain ⟨d, digit, -⟩ := Option.map_eq_some_iff.mp opened
    exact digitToken digit

theorem moreToken {n m : Numeral} {c : Char} (more : n.step c = .more m) : inToken c = true := by
  cases Numeral.stepExtends more with
  | point scale => rfl
  | markSign either => rcases either with rfl | rfl <;> rfl
  | mark scale mark =>
    simp only [Numeral.isMark, Bool.or_eq_true, beq_iff_eq] at mark
    rcases mark with rfl | rfl <;> rfl
  | leading digit | whole digit | wholeFull digit | dropped digit | fraction digit
  | fractionFull digit | power digit | powerMore digit | powerFull digit | powerRest digit =>
    exact digitToken digit

theorem mirrorsFree {m : Mode} {stack : List Frame} {s : Scan}
    (mirrors : Mirrors ⟨m, stack⟩ s) (free : m.wants = true ∨ m.wantsKey = true) :
    s.stack = stack.map Frame.bracket ∧ s.inString = false ∧ s.escaped = false ∧
      s.expectKey = m.wantsKey := by
  obtain ⟨brackets, inside, escaped, expectKey, -⟩ := mirrors
  cases m <;> simp only [Mode.wants, Mode.wantsKey, Bool.false_eq_true, or_self] at free
  all_goals exact ⟨brackets, inside, escaped, expectKey⟩

theorem wantsNoKey {m : Mode} (free : m.wants = true) : m.wantsKey = false := by
  cases m <;> first | rfl | cases free

theorem mirrorsClose {v : Json} {stack : List Frame} {s : Scan} {c : Char}
    (outside : s.inString = false) (free : s.escaped = false)
    (brackets : s.stack.tail = stack.map Frame.bracket) (close : c = ']' ∨ c = '}') :
    Mirrors (deliver v stack) (s.step c) := by
  rcases close with rfl | rfl
  all_goals
    rw [mirrorsDeliver]
    simp [Scan.step, outside, free, brackets]

theorem mirrorsMove {r next : Reader} {c : Char} {s : Scan} (mirrors : Mirrors r s)
    (move : Move r c next) (start : r.Sound) (sound : next.Sound) : Mirrors next (s.step c) := by
  induction move with
  | @space m stack c free blank =>
    have outside : s.inString = false := by
      rw [mirrors.inString]
      cases m <;> first | rfl | cases free
    rw [Scan.stepPlain outside (spacePlain blank)]
    exact mirrors
  | openObject free | openList free =>
    obtain ⟨brackets, outside, escaped, -⟩ := mirrorsFree mirrors (.inl free)
    refine ⟨?_, ?_, ?_, ?_, nofun⟩ <;>
      simp [Scan.step, outside, escaped, brackets, Reader.brackets, Reader.inText,
        Reader.escaping, Reader.expectsKey, Frame.bracket]
  | openText free =>
    obtain ⟨brackets, outside, escaped, expectKey⟩ := mirrorsFree mirrors (.inl free)
    rw [wantsNoKey free] at expectKey
    refine ⟨?_, ?_, ?_, ?_, ?_⟩ <;>
      simp [Scan.step, outside, escaped, brackets, expectKey, Reader.brackets, Reader.inText,
        Reader.escaping, Reader.expectsKey]
  | openKey free =>
    obtain ⟨brackets, outside, escaped, expectKey⟩ := mirrorsFree mirrors (.inr free)
    rw [free] at expectKey
    refine ⟨?_, ?_, ?_, ?_, ?_⟩ <;>
      simp [Scan.step, outside, escaped, brackets, expectKey, Reader.brackets, Reader.inText,
        Reader.escaping, Reader.expectsKey]
  | @openWord m stack c left v free known =>
    obtain ⟨brackets, outside, escaped, expectKey⟩ := mirrorsFree mirrors (.inl free)
    rw [wantsNoKey free] at expectKey
    rw [Scan.stepPlain outside (tokenPlain (literalToken known))]
    exact ⟨brackets, outside, escaped, expectKey, nofun⟩
  | openNumber free opened =>
    obtain ⟨brackets, outside, escaped, expectKey⟩ := mirrorsFree mirrors (.inl free)
    rw [wantsNoKey free] at expectKey
    rw [Scan.stepPlain outside (tokenPlain (openToken opened))]
    exact ⟨brackets, outside, escaped, expectKey, nofun⟩
  | emptyList =>
    obtain ⟨brackets, outside, escaped, -⟩ := mirrorsFree mirrors (.inl rfl)
    exact mirrorsClose outside escaped (by rw [brackets, List.map_tail]) (.inl rfl)
  | emptyObject =>
    obtain ⟨brackets, outside, escaped, -⟩ := mirrorsFree mirrors (.inr rfl)
    exact mirrorsClose outside escaped (by rw [brackets, List.map_tail]) (.inr rfl)
  | colon =>
    obtain ⟨brackets, outside, escaped, -, -⟩ := mirrors
    have outside : s.inString = false := outside
    refine ⟨?_, ?_, ?_, ?_, nofun⟩ <;>
      simp [Scan.step, outside, escaped, brackets, Scan.markColon, Reader.brackets,
        Reader.inText, Reader.escaping, Reader.expectsKey, Frame.bracket]
  | nextItem | nextKey =>
    obtain ⟨brackets, outside, escaped, -, -⟩ := mirrors
    have outside : s.inString = false := outside
    refine ⟨?_, ?_, ?_, ?_, nofun⟩ <;>
      simp [Scan.step, outside, escaped, brackets, Scan.inObject, Reader.brackets,
        Reader.inText, Reader.escaping, Reader.expectsKey, Frame.bracket]
  | closeList =>
    obtain ⟨brackets, outside, escaped, -, -⟩ := mirrors
    exact mirrorsClose outside escaped (by rw [brackets]; rfl) (.inl rfl)
  | closeObject =>
    obtain ⟨brackets, outside, escaped, -, -⟩ := mirrors
    exact mirrorsClose outside escaped (by rw [brackets]; rfl) (.inr rfl)
  | @closeText forKey held stack =>
    obtain ⟨brackets, inside, escaped, expectKey, stringIsKey⟩ := mirrors
    have isKey := stringIsKey rfl
    rw [Scan.stepQuote inside escaped]
    cases forKey with
    | true =>
      have isKey : s.stringIsKey = true := isKey
      refine ⟨?_, ?_, ?_, ?_, nofun⟩ <;>
        simp [Scan.closeString, isKey, escaped, brackets, closeText, Reader.brackets,
          Reader.inText, Reader.escaping, Reader.expectsKey]
    | false =>
      have isKey : s.stringIsKey = false := isKey
      rw [closeText, if_neg Bool.false_ne_true, mirrorsDeliver]
      simp only [Scan.closeString, isKey, Bool.false_eq_true, if_false]
      exact ⟨brackets, trivial, escaped, expectKey⟩
  | spell spelled => exact mirrorsSpells mirrors spelled sound
  | word more =>
    have letter := (start.letters _ _ rfl).2 _ List.mem_cons_self
    obtain ⟨brackets, outside, escaped, expectKey, -⟩ := mirrors
    rw [Scan.stepPlain outside (tokenPlain (letterToken letter))]
    exact ⟨brackets, outside, escaped, expectKey, nofun⟩
  | wordEnd =>
    have letter := (start.letters _ _ rfl).2 _ List.mem_cons_self
    obtain ⟨brackets, outside, escaped, expectKey, -⟩ := mirrors
    rw [Scan.stepPlain outside (tokenPlain (letterToken letter)), mirrorsDeliver]
    exact ⟨brackets, outside, escaped, expectKey⟩
  | wordNone => exact absurd rfl (start.letters _ _ rfl).1
  | number more =>
    obtain ⟨brackets, outside, escaped, expectKey, -⟩ := mirrors
    rw [Scan.stepPlain outside (tokenPlain (moreToken more))]
    exact ⟨brackets, outside, escaped, expectKey, nofun⟩
  | @past n x c stack r _ _ _ ih =>
    obtain ⟨brackets, outside, escaped, expectKey, -⟩ := mirrors
    exact ih (mirrorsDeliver.mpr ⟨brackets, outside, escaped, expectKey⟩) (soundDeliver _ _) sound

theorem scanSnoc (cs : List Char) (c : Char) :
    Scan.ofChars (cs ++ [c]) = (Scan.ofChars cs).step c := by
  simp [Scan.ofChars]

theorem mirrorsRun {cs : List Char} {k : Reader} (read : start.run cs = .ok k)
    (sound : k.Sound) : Mirrors k (Scan.ofChars cs) := by
  have law := soundRun (P := fun rev r => Mirrors r (Scan.ofChars rev.reverse))
    ⟨rfl, rfl, rfl, rfl, nofun⟩ (fun rev r c next mirrors before move after => by
      rw [List.reverse_cons, scanSnoc]
      exact mirrorsMove mirrors move before after) read sound
  rw [List.reverse_reverse] at law
  exact law

end ChaincodeConsole.Json
