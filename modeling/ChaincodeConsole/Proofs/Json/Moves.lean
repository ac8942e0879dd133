import ChaincodeConsole.Json.Reader

/-! What one character can do to the reader, as rules: `Spells` inside of a string, `Move`
everywhere. Each law of the reader's runs is a case analysis on the rule of the last character. -/
namespace ChaincodeConsole.Json

inductive Spells : List Char → Escape → Char → List Char → Escape → Prop where
  | plain {held : List Char} {c : Char} (quote : c ≠ '"') (slash : c ≠ '\\') :
      Spells held .none c (c :: held) .none
  | slash {held : List Char} : Spells held .none '\\' held .open
  | letter {held : List Char} {c d : Char} (stands : Reader.escapeLetter? c = some d) :
      Spells held .open c (d :: held) .none
  | unit {held : List Char} : Spells held .open 'u' held (.unit none 0 (some 0))
  | digit {held : List Char} {high : Option Nat} {taken v d : Nat} {c : Char}
      (digit : Text.hexValue? c = some d) (room : taken + 1 < 4) :
      Spells held (.unit high taken (some v)) c held
        (.unit high (taken + 1) (some (v * 16 + d)))
  | lost {held : List Char} {high : Option Nat} {taken next : Nat} {value : Option Nat}
      {c : Char} (bad : value = none ∨ Text.hexValue? c = none) :
      Spells held (.unit high taken value) c held (.unit high next none)
  | scalar {held : List Char} {taken v d : Nat} {c : Char}
      (digit : Text.hexValue? c = some d) (full : 4 ≤ taken + 1) :
      Spells held (.unit none taken (some v)) c (Char.ofNat (v * 16 + d) :: held) .none
  | lead {held : List Char} {taken v d : Nat} {c : Char}
      (digit : Text.hexValue? c = some d) (full : 4 ≤ taken + 1)
      (low : 0xD800 ≤ v * 16 + d) (high : v * 16 + d ≤ 0xDBFF) :
      Spells held (.unit none taken (some v)) c held (.pairSlash (v * 16 + d))
  | pair {held : List Char} {taken h v d : Nat} {c : Char}
      (digit : Text.hexValue? c = some d) (full : 4 ≤ taken + 1) :
      Spells held (.unit (some h) taken (some v)) c
        (Char.ofNat (0x10000 + (h - 0xD800) * 0x400 + (v * 16 + d - 0xDC00)) :: held) .none
  | pairSlash {held : List Char} {h : Nat} :
      Spells held (.pairSlash h) '\\' held (.pairLetter h)
  | pairLetter {held : List Char} {h : Nat} :
      Spells held (.pairLetter h) 'u' held (.unit (some h) 0 (some 0))

def Mode.wants : Mode → Bool
  | .value | .firstItem | .item => true
  | _ => false

def Mode.wantsKey : Mode → Bool
  | .firstKey | .key => true
  | _ => false

def Mode.between : Mode → Bool
  | .text _ _ _ | .word _ _ | .number _ => false
  | _ => true

def literals : List (Char × List Char × Json) :=
  [('t', ['r', 'u', 'e'], .bool true), ('f', ['a', 'l', 's', 'e'], .bool false),
    ('n', ['u', 'l', 'l'], .null)]

open Reader in
inductive Move : Reader → Char → Reader → Prop where
  | space {m : Mode} {s : List Frame} {c : Char} (free : m.between = true)
      (blank : isSpace c = true) : Move ⟨m, s⟩ c ⟨m, s⟩
  | openObject {m : Mode} {s : List Frame} (free : m.wants = true) :
      Move ⟨m, s⟩ '{' ⟨.firstKey, .record [] :: s⟩
  | openList {m : Mode} {s : List Frame} (free : m.wants = true) :
      Move ⟨m, s⟩ '[' ⟨.firstItem, .list [] :: s⟩
  | openText {m : Mode} {s : List Frame} (free : m.wants = true) :
      Move ⟨m, s⟩ '"' ⟨.text false [] .none, s⟩
  | openWord {m : Mode} {s : List Frame} {c : Char} {left : List Char} {v : Json}
      (free : m.wants = true) (known : (c, left, v) ∈ literals) :
      Move ⟨m, s⟩ c ⟨.word left v, s⟩
  | openNumber {m : Mode} {s : List Frame} {c : Char} {n : Numeral}
      (free : m.wants = true) (opened : Numeral.open? c = some n) :
      Move ⟨m, s⟩ c ⟨.number n, s⟩
  | openKey {m : Mode} {s : List Frame} (free : m.wantsKey = true) :
      Move ⟨m, s⟩ '"' ⟨.text true [] .none, s⟩
  | emptyList {s : List Frame} : Move ⟨.firstItem, s⟩ ']' (deliver (.array []) s.tail)
  | emptyObject {s : List Frame} : Move ⟨.firstKey, s⟩ '}' (deliver (.object []) s.tail)
  | colon {name : String} {members : List (String × Json)} {s : List Frame} :
      Move ⟨.colon name, .record members :: s⟩ ':' ⟨.value, .member members name :: s⟩
  | nextItem {items : List Json} {s : List Frame} :
      Move ⟨.next, .list items :: s⟩ ',' ⟨.item, .list items :: s⟩
  | nextKey {members : List (String × Json)} {s : List Frame} :
      Move ⟨.next, .record members :: s⟩ ',' ⟨.key, .record members :: s⟩
  | closeList {items : List Json} {s : List Frame} :
      Move ⟨.next, .list items :: s⟩ ']' (deliver (.array items.reverse) s)
  | closeObject {members : List (String × Json)} {s : List Frame} :
      Move ⟨.next, .record members :: s⟩ '}' (deliver (.object members) s)
  | closeText {forKey : Bool} {held : List Char} {s : List Frame} :
      Move ⟨.text forKey held .none, s⟩ '"' (closeText forKey held s)
  | spell {forKey : Bool} {held next : List Char} {e f : Escape} {s : List Frame} {c : Char}
      (spelled : Spells held e c next f) :
      Move ⟨.text forKey held e, s⟩ c ⟨.text forKey next f, s⟩
  | word {c : Char} {left : List Char} {v : Json} {s : List Frame} (more : left ≠ []) :
      Move ⟨.word (c :: left) v, s⟩ c ⟨.word left v, s⟩
  | wordEnd {c : Char} {v : Json} {s : List Frame} : Move ⟨.word [c] v, s⟩ c (deliver v s)
  | wordNone {c : Char} {v : Json} {s : List Frame} : Move ⟨.word [] v, s⟩ c (deliver v s)
  | number {n m : Numeral} {c : Char} {s : List Frame} (more : n.step c = .more m) :
      Move ⟨.number n, s⟩ c ⟨.number m, s⟩
  | past {n : Numeral} {x : Number} {c : Char} {s : List Frame} {r : Reader}
      (past : n.step c = .past) (value : n.value? = some (.ok x))
      (move : Move (deliver (.number x) s) c r) : Move ⟨.number n, s⟩ c r

namespace Reader

theorem takeUnitSpells {held next : List Char} {high : Option Nat} {taken v d : Nat} {c : Char}
    {f : Escape} (digit : Text.hexValue? c = some d) (full : 4 ≤ taken + 1)
    (ok : takeUnit held high (v * 16 + d) = .ok (next, f)) :
    Spells held (.unit high taken (some v)) c next f := by
  simp only [takeUnit] at ok
  cases high with
  | some h =>
    dsimp only at ok
    split at ok
    · cases ok
      exact .pair digit full
    · cases ok
  | none =>
    dsimp only at ok
    split at ok
    · cases ok
    · split at ok
      · rename_i lead
        cases ok
        exact .lead digit full lead.1 lead.2
      · cases ok
        exact .scalar digit full

theorem hexSize {c : Char} {d : Nat} (digit : Text.hexValue? c = some d) : c.utf8Size = 1 := by
  have ascii : c.toNat < 128 := by
    unfold Text.hexValue? at digit
    simp only [Char.le_def, UInt32.le_iff_toNat_le] at digit
    split at digit
    · rename_i range
      exact Nat.lt_of_le_of_lt range.2 (by decide)
    · split at digit
      · rename_i range
        exact Nat.lt_of_le_of_lt range.2 (by decide)
      · split at digit
        · rename_i range
          exact Nat.lt_of_le_of_lt range.2 (by decide)
        · cases digit
  exact Char.utf8Size_eq_one_iff.mpr (UInt32.le_iff_toNat_le.mpr (Nat.le_of_lt_succ ascii))

theorem unitSpells {held next : List Char} {high value : Option Nat} {taken : Nat} {c : Char}
    {f : Escape} (ok : unitStep held high taken value c = .ok (next, f)) :
    Spells held (.unit high taken value) c next f := by
  unfold unitStep at ok
  cases value with
  | none =>
    simp only [Option.bind_eq_bind, Option.bind_none] at ok
    split at ok
    · cases ok
      exact .lost (.inl rfl)
    · cases ok
  | some v =>
    cases digit : Text.hexValue? c with
    | none =>
      simp only [Option.bind_eq_bind, Option.bind_some, digit, Option.bind_none] at ok
      split at ok
      · cases ok
        exact .lost (.inr digit)
      · cases ok
    | some d =>
      simp only [Option.bind_eq_bind, Option.bind_some, digit, Option.pure_def, hexSize digit] at ok
      split at ok
      · rename_i room
        cases ok
        exact .digit digit room
      · rename_i full
        split at ok
        · rename_i r taken
          cases ok
          exact takeUnitSpells digit (by omega) taken
        · cases ok

theorem escapeSpells {held next : List Char} {e f : Escape} {c : Char}
    (quote : ¬(e = .none ∧ c = '"')) (slash : ¬(e = .none ∧ c = '\\'))
    (ok : escapeStep held e c = .ok (next, f)) : Spells held e c next f := by
  cases e with
  | none =>
    cases ok
    exact .plain (by simpa using quote) (by simpa using slash)
  | «open» =>
    simp only [escapeStep] at ok
    split at ok
    · rename_i unit
      subst unit
      cases ok
      exact .unit
    · split at ok
      · rename_i stands
        cases ok
        exact .letter stands
      · cases ok
  | unit high taken value => exact unitSpells ok
  | pairSlash h =>
    simp only [escapeStep] at ok
    split at ok
    · rename_i slash
      subst slash
      cases ok
      exact .pairSlash
    · cases ok
  | pairLetter h =>
    simp only [escapeStep] at ok
    split at ok
    · rename_i unit
      subst unit
      cases ok
      exact .pairLetter
    · cases ok

theorem textMove {forKey : Bool} {held : List Char} {e : Escape} {s : List Frame} {c : Char}
    {r : Reader} (ok : textStep forKey held e s c = .ok r) : Move ⟨.text forKey held e, s⟩ c r := by
  unfold textStep at ok
  split at ok
  · rename_i quote
    obtain ⟨rfl, rfl⟩ := quote
    cases ok
    exact .closeText
  · split at ok
    · rename_i slash
      obtain ⟨rfl, rfl⟩ := slash
      cases ok
      exact .spell .slash
    · split at ok
      · cases ok
      · rename_i quote slash _
        cases spelled : escapeStep held e c with
        | error stop => simp [spelled, bind, Except.bind] at ok
        | ok pair =>
          obtain ⟨next, f⟩ := pair
          simp only [spelled, bind, Except.bind, pure, Except.pure] at ok
          cases ok
          exact .spell (escapeSpells quote slash spelled)

theorem openMove {m : Mode} {s : List Frame} {c : Char} {r : Reader} (free : m.wants = true)
    (ok : openValue s c = .ok r) : Move ⟨m, s⟩ c r := by
  unfold openValue openContainer at ok
  split at ok
  · split at ok
    · cases ok
      exact .openObject free
    · cases ok
  · split at ok
    · cases ok
      exact .openList free
    · cases ok
  · cases ok
    exact .openText free
  · cases ok
    exact .openWord free (by simp [literals])
  · cases ok
    exact .openWord free (by simp [literals])
  · cases ok
    exact .openWord free (by simp [literals])
  · split at ok
    · rename_i opened
      cases ok
      exact .openNumber free opened
    · cases ok

theorem separateMove {s : List Frame} {c : Char} {r : Reader} (ok : separate s c = .ok r) :
    Move ⟨.next, s⟩ c r := by
  unfold separate at ok
  split at ok
  · split at ok
    · rename_i comma
      subst comma
      cases ok
      exact .nextItem
    · split at ok
      · rename_i close
        subst close
        cases ok
        exact .closeList
      · cases ok
  · split at ok
    · rename_i comma
      subst comma
      cases ok
      exact .nextKey
    · split at ok
      · rename_i close
        subst close
        cases ok
        exact .closeObject
      · cases ok
  · cases ok

theorem deliverMode (v : Json) (s : List Frame) :
    (deliver v s).mode = .next ∨ (deliver v s).mode = .done v := by
  unfold deliver
  split <;> simp

theorem deliverOther {m : Mode} (next : m ≠ .next) (done : ∀ v, m ≠ .done v) (v : Json)
    (s : List Frame) : (deliver v s).mode ≠ m := by
  rcases deliverMode v s with same | same
  · rw [same]
    exact next.symm
  · rw [same]
    exact (done v).symm

theorem plainMove {r next : Reader} {c : Char} (still : ∀ n, r.mode ≠ .number n)
    (ok : r.plainStep c = .ok next) : Move r c next := by
  obtain ⟨mode, s⟩ := r
  cases mode <;> simp only [plainStep] at ok
  case text forKey held e => exact textMove ok
  case number n => exact absurd rfl (still n)
  case word left v =>
    match left with
    | [] =>
      cases ok
      exact .wordNone
    | w :: left =>
      dsimp only at ok
      split at ok
      · rename_i same
        subst same
        cases left with
        | nil =>
          cases ok
          exact .wordEnd
        | cons next rest =>
          cases ok
          exact .word (List.cons_ne_nil next rest)
      · cases ok
  all_goals
    split at ok
    · rename_i blank
      cases ok
      exact .space rfl blank
  case value => exact openMove rfl ok
  case firstItem =>
    split at ok
    · rename_i close
      subst close
      cases ok
      exact .emptyList
    · exact openMove rfl ok
  case item =>
    split at ok
    · cases ok
    · exact openMove rfl ok
  case firstKey =>
    split at ok
    · rename_i close
      subst close
      cases ok
      exact .emptyObject
    · split at ok
      · rename_i quote
        subst quote
        cases ok
        exact .openKey rfl
      · cases ok
  case key =>
    split at ok
    · cases ok
    · split at ok
      · rename_i quote
        subst quote
        cases ok
        exact .openKey rfl
      · cases ok
  case colon name =>
    split at ok
    · rename_i colon
      subst colon
      split at ok
      · cases ok
        exact .colon
      · cases ok
    · cases ok
  case next => exact separateMove ok
  case done => cases ok

theorem stepMove {r next : Reader} {c : Char} (ok : r.step c = .ok next) : Move r c next := by
  obtain ⟨mode, s⟩ := r
  by_cases number : ∃ n, mode = .number n
  · obtain ⟨n, rfl⟩ := number
    simp only [step] at ok
    split at ok
    · rename_i more
      cases ok
      exact .number more
    · cases ok
    · -- The character behind a number is taken anew, by the reader that has the number's value.
      rename_i past
      split at ok
      · rename_i x value
        exact .past past value (plainMove (fun m => deliverOther (by simp) (by simp) _ s) ok)
      · cases ok
      · cases ok
  · have still : ∀ n, mode ≠ .number n := fun n same => number ⟨n, same⟩
    refine plainMove still ?_
    unfold step at ok
    split at ok
    · rename_i n same
      exact absurd same (still n)
    · exact ok

end Reader
end ChaincodeConsole.Json
