import ChaincodeConsole.Json.Completion
import ChaincodeConsole.Proofs.Json.Moves
import Mathlib.Data.List.Induction

/-! Runs of the reader: what a text before the end of a run leaves to do, laws that hold after
every run, and the brackets that end a document. -/
namespace ChaincodeConsole.Json.Reader

def Yields (r : Reader) (cs : List Char) (v : Json) : Prop :=
  ∃ k, r.run cs = .ok k ∧ k.atEnd = .ok v

def Live (r : Reader) : Prop := ∃ cs v, r.Yields cs v

theorem runAppend {r k : Reader} {front : List Char} (ok : r.run front = .ok k)
    (rest : List Char) : r.run (front ++ rest) = k.run rest := by
  induction front generalizing r with
  | nil =>
    cases ok
    rfl
  | cons c front ih =>
    simp only [run, List.cons_append] at ok ⊢
    split at ok
    · exact ih ok
    · cases ok

theorem runSplits {r k : Reader} {front rest : List Char} (ok : r.run (front ++ rest) = .ok k) :
    ∃ m, r.run front = .ok m ∧ m.run rest = .ok k := by
  induction front generalizing r with
  | nil => exact ⟨r, rfl, ok⟩
  | cons c front ih =>
    simp only [run, List.cons_append] at ok ⊢
    split at ok
    · exact ih ok
    · cases ok

theorem runOne {r : Reader} {c : Char} {k : Reader} : r.run [c] = .ok k ↔ r.step c = .ok k := by
  simp only [run]
  cases r.step c <;> simp

theorem runCons {r k : Reader} {c : Char} {rest : List Char} (ok : r.run (c :: rest) = .ok k) :
    ∃ m, r.run [c] = .ok m ∧ Move r c m ∧ m.run rest = .ok k := by
  obtain ⟨m, first, later⟩ := runSplits (show r.run ([c] ++ rest) = .ok k from ok)
  exact ⟨m, first, stepMove (runOne.mp first), later⟩

theorem runSnoc {r k : Reader} {front : List Char} {c : Char}
    (ok : r.run (front ++ [c]) = .ok k) : ∃ m, r.run front = .ok m ∧ Move m c k := by
  obtain ⟨m, first, last⟩ := runSplits ok
  exact ⟨m, first, stepMove (runOne.mp last)⟩

theorem yieldsAfter {r k : Reader} {front : List Char} (ok : r.run front = .ok k)
    (rest : List Char) (v : Json) : r.Yields (front ++ rest) v ↔ k.Yields rest v := by
  simp only [Yields, runAppend ok]

theorem yieldsSplits {r : Reader} {front rest : List Char} {v : Json}
    (read : r.Yields (front ++ rest) v) : ∃ k, r.run front = .ok k ∧ k.Yields rest v := by
  obtain ⟨last, ok, ended⟩ := read
  obtain ⟨k, first, second⟩ := runSplits ok
  exact ⟨k, first, last, second, ended⟩

theorem yieldsUnique {r : Reader} {cs : List Char} {v w : Json} (one : r.Yields cs v)
    (other : r.Yields cs w) : v = w := by
  obtain ⟨k, ok, ended⟩ := one
  obtain ⟨l, same, finished⟩ := other
  cases ok.symm.trans same
  exact Except.ok.inj (ended.symm.trans finished)

theorem yieldsStep {r k : Reader} {c : Char} {cs : List Char} {v : Json}
    (ok : r.step c = .ok k) : r.Yields (c :: cs) v ↔ k.Yields cs v :=
  yieldsAfter (runOne.mpr ok) cs v

theorem accepted {text : List Char} {v : Json} :
    (ofChars text).toOption = some v ↔ start.Yields text v := by
  unfold ofChars Yields
  cases start.run text with
  | error stop => simp [Except.toOption]
  | ok k => cases ended : k.atEnd <;> simp [Except.toOption, ended]

def Letters (r : Reader) : Prop :=
  ∀ left v, r.mode = .word left v → left ≠ [] ∧ ∀ c ∈ left, isLetter c = true

/-- The states of a document in reading: every digit so far of a hexadecimal unit is one, and
letters are left of a literal. -/
structure Sound (r : Reader) : Prop where
  digits : ∀ forKey held high taken, r.mode ≠ .text forKey held (.unit high taken none)
  letters : r.Letters

theorem digitsBefore {r next : Reader} {c : Char} (move : Move r c next)
    (digits : ∀ forKey held high taken, next.mode ≠ .text forKey held (.unit high taken none)) :
    ∀ forKey held high taken, r.mode ≠ .text forKey held (.unit high taken none) := by
  rintro forKey held high taken lost
  cases move with
  | spell spelled =>
    cases lost
    cases spelled with
    | lost bad => exact digits _ _ _ _ rfl
  | space free | openObject free | openList free | openText free | openKey free | openWord free
  | openNumber free =>
    cases lost
    cases free
  | _ => cases lost

theorem lettersDeliver (v : Json) (s : List Frame) : (deliver v s).Letters :=
  fun _ _ same => absurd same (deliverOther (by simp) (by simp) v s)

theorem soundDeliver (v : Json) (s : List Frame) : (deliver v s).Sound :=
  ⟨fun _ _ _ _ => deliverOther (by simp) (by simp) v s, lettersDeliver v s⟩

theorem lettersAfter {r next : Reader} {c : Char} (move : Move r c next) (letters : r.Letters) :
    next.Letters := by
  induction move with
  | space => exact letters
  | openWord free known =>
    rintro left w ⟨⟩
    simp only [literals, List.mem_cons, Prod.mk.injEq, List.not_mem_nil, or_false] at known
    rcases known with ⟨-, rfl, -⟩ | ⟨-, rfl, -⟩ | ⟨-, rfl, -⟩ <;> simp [isLetter]
  | word more =>
    rintro left w ⟨⟩
    exact ⟨more, fun d rest => (letters _ _ rfl).2 d (List.mem_cons_of_mem _ rest)⟩
  | emptyList | emptyObject | closeList | closeObject | wordEnd | wordNone =>
    exact lettersDeliver _ _
  | @closeText forKey held s =>
    cases forKey with
    | true => rintro _ _ ⟨⟩
    | false => exact lettersDeliver _ _
  | past _ _ _ ih => exact ih (lettersDeliver _ _)
  | _ => rintro _ _ ⟨⟩

theorem lettersRun {cs : List Char} {k : Reader} (ok : start.run cs = .ok k) : k.Letters := by
  induction cs using List.reverseRecOn generalizing k with
  | nil =>
    cases ok
    nofun
  | append_singleton cs c ih =>
    obtain ⟨m, first, move⟩ := runSnoc ok
    exact lettersAfter move (ih first)

theorem soundBefore {r next : Reader} {cs : List Char} {c : Char} (read : start.run cs = .ok r)
    (move : Move r c next) (sound : next.Sound) : r.Sound :=
  ⟨digitsBefore move sound.digits, lettersRun read⟩

theorem soundEarlier {cs rest : List Char} {r k : Reader} (read : start.run cs = .ok r)
    (ok : r.run rest = .ok k) (sound : k.Sound) : r.Sound := by
  -- From the end of the text back to its beginning: a later state that is sound makes each
  -- earlier one so.
  induction rest generalizing cs r with
  | nil =>
    cases ok
    exact sound
  | cons c rest ih =>
    obtain ⟨m, first, move, later⟩ := runCons ok
    have longer : start.run (cs ++ [c]) = .ok m := (runAppend read [c]).trans first
    exact soundBefore read move (ih longer later)

theorem liveSound {cs : List Char} {r : Reader} (read : start.run cs = .ok r) (live : r.Live) :
    r.Sound := by
  refine ⟨?_, lettersRun read⟩
  clear read
  obtain ⟨rest, v, k, ok, ended⟩ := live
  induction rest generalizing r with
  | nil =>
    cases ok
    rintro forKey held high taken lost
    obtain ⟨mode, s⟩ := k
    cases lost
    cases ended
  | cons c rest ih =>
    obtain ⟨m, -, move, later⟩ := runCons ok
    exact digitsBefore move (ih later)

theorem liveBefore {r k : Reader} {cs : List Char} (ok : r.run cs = .ok k) (live : k.Live) :
    r.Live := by
  obtain ⟨rest, v, read⟩ := live
  exact ⟨cs ++ rest, v, (yieldsAfter ok rest v).mpr read⟩

/-- What the beginning has and every move of a sound run preserves holds after it; the law is
about the characters so far, latest first, and the reader. -/
theorem soundRun {P : List Char → Reader → Prop} (first : P [] start)
    (step : ∀ rev r c next, P rev r → r.Sound → Move r c next → next.Sound →
      P (c :: rev) next)
    {cs : List Char} {k : Reader} (ok : start.run cs = .ok k) (sound : k.Sound) :
    P cs.reverse k := by
  induction cs using List.reverseRecOn generalizing k with
  | nil =>
    cases ok
    exact first
  | append_singleton cs c ih =>
    obtain ⟨m, before, move⟩ := runSnoc ok
    have earlier := soundBefore before move sound
    rw [List.reverse_append]
    exact step _ m c k (ih before earlier) earlier move sound

def closeFrames (v : Json) : List Frame → Json
  | [] => v
  | .list items :: s => closeFrames (.array (v :: items).reverse) s
  | .record members :: s => closeFrames (.object members) s
  | .member members key :: s => closeFrames (.object (insertMember key v members)) s

def closer : Frame → Char
  | .list _ => ']'
  | .record _ | .member _ _ => '}'

theorem deliverYields (v : Json) (s : List Frame) :
    (deliver v s).Yields (s.map closer) (closeFrames v s) := by
  induction s generalizing v with
  | nil => exact ⟨⟨.done v, []⟩, rfl, rfl⟩
  | cons frame s ih =>
    cases frame with
    | list items => exact (yieldsStep rfl).mpr (ih (.array (v :: items).reverse))
    | record members => exact (yieldsStep rfl).mpr (ih (.object members))
    | member members key => exact (yieldsStep rfl).mpr (ih (.object (insertMember key v members)))

end ChaincodeConsole.Json.Reader
