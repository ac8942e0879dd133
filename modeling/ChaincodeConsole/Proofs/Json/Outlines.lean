import ChaincodeConsole.Json.Outline
import ChaincodeConsole.Proofs.Json.Printing

/-! Outlines of printed text. The text of a value is passed over as a whole, whatever follows it, so
that the outline of a printed list or object gives the texts of its parts. -/
namespace ChaincodeConsole.Json.Outline

theorem skipKept {c : Char} (cs : List Char) (filled : Reader.isSpace c = false) :
    skipSpace (c :: cs) = c :: cs := List.dropWhile_cons_of_neg (by simp [filled])

theorem passEscaped (c : Char) (rest : List Char) :
    passText (escaped c ++ rest) = passText rest := by
  unfold escaped
  iterate 7
    split
    · simp [passText, Reader.escapeLetter?]
  split
  · rename_i control
    have first := hexShown (show c.toNat / 16 < 16 by omega)
    have second := hexShown (show c.toNat % 16 < 16 by omega)
    have zero : Text.hexValue? '0' = some 0 := rfl
    simp [passText, first, second, zero]
  · rename_i slash _ _ _ _ _ shown
    simp [passText, slash, shown]

theorem passQuoted (cs rest : List Char) :
    passText (cs.flatMap escaped ++ '"' :: rest) = some rest := by
  induction cs with
  | nil => simp [passText]
  | cons c cs ih => rw [List.flatMap_cons, List.append_assoc, passEscaped, ih]

/-- No white space and no closing bracket begins the text, and all of it is passed over as a value,
whatever follows, by more steps than it is long. -/
structure Passed (text : List Char) : Prop where
  begins : ∃ c cs, text = c :: cs ∧ Reader.isSpace c = false ∧ c ≠ ']'
  passes : ∀ fuel rest, text.length < fuel → passValue fuel (text ++ rest) = some rest

theorem stringPassed (text : String) : Passed (quoted text) := by
  refine ⟨⟨'"', _, rfl, rfl, by decide⟩, fun fuel rest enough => ?_⟩
  cases fuel with
  | zero => omega
  | succ fuel =>
    rw [quotedSplits, passValue, skipKept _ rfl]
    exact passQuoted _ _

theorem partTaken (text rest : List Char) :
    (text ++ rest).take ((text ++ rest).length - rest.length) = text := by simp

theorem itemLast {text : List Char} (passed : Passed text) {fuel : Nat} (rest : List Char)
    (enough : text.length < fuel) : items? (fuel + 1) (text ++ ']' :: rest) =
      some ([text], rest) := by
  simp only [items?, passed.passes fuel _ enough, partTaken, skipKept (c := ']') _ rfl]

theorem itemMore {text : List Char} (passed : Passed text) {fuel : Nat} (rest : List Char)
    (enough : text.length < fuel) : items? (fuel + 1) (text ++ ',' :: rest) =
      (items? fuel rest).map fun (items, r) => (text :: items, r) := by
  simp only [items?, passed.passes fuel _ enough, partTaken, skipKept (c := ',') _ rfl]

theorem itemsRead {v : Json} {items : List Json} (each : ∀ w ∈ v :: items, Passed w.chars)
    (fuel : Nat) (rest : List Char) (enough : (itemChars (v :: items)).length < fuel) :
    items? (fuel + 1) (itemChars (v :: items) ++ ']' :: rest) =
      some ((v :: items).map chars, rest) := by
  -- An item takes one step, and with its comma it is longer than that.
  induction items generalizing v fuel with
  | nil =>
    rw [itemChars, itemTail, List.append_nil] at enough ⊢
    exact itemLast (each v List.mem_cons_self) rest enough
  | cons w items ih =>
    obtain ⟨head, others⟩ := List.forall_mem_cons.mp each
    have more : itemChars (v :: w :: items) = v.chars ++ ',' :: itemChars (w :: items) := rfl
    rw [more, List.length_append, List.length_cons] at enough
    obtain ⟨fuel, rfl⟩ : ∃ less, fuel = less + 1 := ⟨fuel - 1, by omega⟩
    rw [more, List.append_assoc, List.cons_append, itemMore head _ (by omega),
      ih others fuel (by omega)]
    rfl

theorem itemsBegin {v : Json} (items : List Json) (head : Passed v.chars) (rest : List Char) :
    ∃ c cs, itemChars (v :: items) ++ rest = c :: cs ∧ Reader.isSpace c = false ∧ c ≠ ']' := by
  obtain ⟨c, cs, first, filled, other⟩ := head.begins
  exact ⟨c, cs ++ itemTail items ++ rest, by simp [itemChars, first], filled, other⟩

theorem arrayPassed {items : List Json} (each : ∀ v ∈ items, Passed v.chars) :
    Passed (chars (.array items)) := by
  refine ⟨⟨'[', _, rfl, rfl, by decide⟩, fun fuel rest enough => ?_⟩
  obtain ⟨fuel, rfl⟩ : ∃ less, fuel = less + 1 := ⟨fuel - 1, by omega⟩
  rw [chars, List.length_cons, List.length_append, List.length_singleton] at enough
  rw [chars, List.cons_append, List.append_assoc, passValue, skipKept _ rfl]
  cases items with
  | nil => rfl
  | cons v items =>
    obtain ⟨fuel, rfl⟩ : ∃ less, fuel = less + 1 := ⟨fuel - 1, by omega⟩
    have read := itemsRead each fuel rest (by omega)
    obtain ⟨c, cs, first, filled, other⟩ :=
      itemsBegin items (each v List.mem_cons_self) (']' :: rest)
    rw [first] at read
    simp [first, skipKept cs filled, other, read]

theorem keyTaken (key : String) (rest : List Char) :
    '"' :: (key.toList.flatMap escaped ++ '"' :: rest).take
      ((key.toList.flatMap escaped ++ '"' :: rest).length - rest.length) = quoted key := by
  have taken := partTaken (key.toList.flatMap escaped ++ ['"']) rest
  rw [List.append_assoc, List.singleton_append] at taken
  rw [taken, quoted]

theorem memberLast {text : List Char} (passed : Passed text) {fuel : Nat} (key : String)
    (rest : List Char) (enough : text.length < fuel) :
    members? (fuel + 1) (quoted key ++ ':' :: (text ++ '}' :: rest)) =
      some ([(quoted key, text)], rest) := by
  rw [quotedSplits, members?, skipKept _ rfl]
  simp only [passQuoted, keyTaken, skipKept (c := ':') _ rfl, passed.passes fuel _ enough,
    partTaken, skipKept (c := '}') _ rfl]

theorem memberMore {text : List Char} (passed : Passed text) {fuel : Nat} (key : String)
    (rest : List Char) (enough : text.length < fuel) :
    members? (fuel + 1) (quoted key ++ ':' :: (text ++ ',' :: rest)) =
      (members? fuel rest).map fun (ms, r) => ((quoted key, text) :: ms, r) := by
  rw [quotedSplits, members?, skipKept _ rfl]
  simp only [passQuoted, keyTaken, skipKept (c := ':') _ rfl, passed.passes fuel _ enough,
    partTaken, skipKept (c := ',') _ rfl]

theorem membersRead {m : String × Json} {members : List (String × Json)}
    (each : ∀ n ∈ m :: members, Passed n.2.chars) (fuel : Nat) (rest : List Char)
    (enough : (memberChars (m :: members)).length < fuel) :
    members? (fuel + 1) (memberChars (m :: members) ++ '}' :: rest) =
      some ((m :: members).map fun n => (quoted n.1, n.2.chars), rest) := by
  induction members generalizing m fuel with
  | nil =>
    have one : memberChars [m] = quoted m.1 ++ ':' :: m.2.chars := by
      simp [memberChars, memberTail]
    rw [one, List.length_append, List.length_cons] at enough
    rw [one, List.append_assoc, List.cons_append]
    exact memberLast (each m List.mem_cons_self) m.1 rest (by omega)
  | cons n members ih =>
    obtain ⟨head, others⟩ := List.forall_mem_cons.mp each
    have more : memberChars (m :: n :: members) =
        quoted m.1 ++ ':' :: (m.2.chars ++ ',' :: memberChars (n :: members)) := rfl
    rw [more, List.length_append, List.length_cons, List.length_append, List.length_cons] at enough
    obtain ⟨fuel, rfl⟩ : ∃ less, fuel = less + 1 := ⟨fuel - 1, by omega⟩
    rw [more, List.append_assoc, List.cons_append, List.append_assoc, List.cons_append,
      memberMore head _ _ (by omega), ih others fuel (by omega)]
    rfl

theorem membersBegin (m : String × Json) (members : List (String × Json)) (rest : List Char) :
    ∃ cs, memberChars (m :: members) ++ rest = '"' :: cs := ⟨_, rfl⟩

theorem objectPassed {members : List (String × Json)}
    (each : ∀ m ∈ members, Passed m.2.chars) : Passed (chars (.object members)) := by
  refine ⟨⟨'{', _, rfl, rfl, by decide⟩, fun fuel rest enough => ?_⟩
  obtain ⟨fuel, rfl⟩ : ∃ less, fuel = less + 1 := ⟨fuel - 1, by omega⟩
  rw [chars, List.length_cons, List.length_append, List.length_singleton] at enough
  rw [chars, List.cons_append, List.append_assoc, passValue, skipKept _ rfl]
  cases members with
  | nil => rfl
  | cons m members =>
    obtain ⟨fuel, rfl⟩ : ∃ less, fuel = less + 1 := ⟨fuel - 1, by omega⟩
    have read := membersRead each fuel rest (by omega)
    obtain ⟨cs, first⟩ := membersBegin m members ('}' :: rest)
    rw [first] at read
    simp [first, skipKept (c := '"') cs rfl, read]

theorem outlineArray {items : List Json} (each : ∀ v ∈ items, Passed v.chars) :
    ofChars? (chars (.array items)) = some (.array (items.map chars)) := by
  rw [chars, ofChars?, skipKept _ rfl]
  cases items with
  | nil => rfl
  | cons v items =>
    have read := itemsRead each ('[' :: (itemChars (v :: items) ++ [']'])).length []
      (by rw [List.length_cons, List.length_append]; omega)
    obtain ⟨c, cs, first, filled, other⟩ := itemsBegin items (each v List.mem_cons_self) [']']
    rw [first] at read
    simp only [first, skipKept cs filled]
    split
    · rename_i bracket
      cases bracket
      exact absurd rfl other
    · rw [read]
      rfl

theorem quotedRead (text : String) : Json.ofChars (quoted text) = .ok (.string text) := by
  have read := standsRead (standsMore (stringStands text) (Nat.zero_le Reader.depthLimit))
  simp only [ofText?, ofText, String.toList_ofList] at read
  cases found : Json.ofChars (quoted text) with
  | error e =>
    rw [found] at read
    cases read
  | ok v =>
    rw [found] at read
    cases read
    rfl

theorem keysRead (members : List (String × Json)) :
    (members.map fun m => (quoted m.1, m.2.chars)).mapM readKey? =
      some (members.map fun m => (m.1, m.2.chars)) := by
  induction members with
  | nil => rfl
  | cons m members ih =>
    have key : readKey? (quoted m.1, m.2.chars) = some (m.1, m.2.chars) := by
      rw [readKey?, quotedRead]
    rw [List.map_cons, List.mapM_cons, key, ih]
    rfl

theorem outlineObject {members : List (String × Json)} (each : ∀ m ∈ members, Passed m.2.chars) :
    ofChars? (chars (.object members)) =
      some (.object (members.map fun m => (m.1, m.2.chars))) := by
  rw [chars, ofChars?, skipKept _ rfl]
  cases members with
  | nil => rfl
  | cons m members =>
    have read := membersRead each ('{' :: (memberChars (m :: members) ++ ['}'])).length []
      (by rw [List.length_cons, List.length_append]; omega)
    obtain ⟨cs, first⟩ := membersBegin m members ['}']
    rw [first] at read
    simp only [first, skipKept (c := '"') cs rfl]
    split
    · rename_i brace
      cases brace
    · rw [read]
      exact congrArg (Option.map object) (keysRead (m :: members))

inductive Textual : Json → Prop where
  | string (text : String) : Textual (.string text)
  | array {items : List Json} (each : ∀ v ∈ items, Textual v) : Textual (.array items)
  | object {members : List (String × Json)} (each : ∀ m ∈ members, Textual m.2) :
      Textual (.object members)

theorem textualPassed {v : Json} (textual : Textual v) : Passed v.chars := by
  induction textual with
  | string text => exact stringPassed text
  | array _ ih => exact arrayPassed ih
  | object _ ih => exact objectPassed ih

theorem textualPrinted {v : Json} (textual : Textual v) : Printed v.chars := by
  induction textual with
  | string text => exact quotedPrinted text
  | array _ ih => exact arrayPrinted ih
  | object _ ih => exact objectPrinted ih

theorem quotedPlain (text : String) : plainValue? (quoted text) = some (.string text) := by
  have passed := (stringPassed text).passes ((quoted text).length + 1) [] (by omega)
  have outline : ofChars? (quoted text) = some .plain := by
    rw [List.append_nil] at passed
    have first : skipSpace (quoted text) = quoted text := skipKept _ rfl
    rw [ofChars?, first]
    split
    · rename_i bracket
      cases bracket
    · rename_i brace
      cases brace
    · rw [passed]
      rfl
  rw [plainValue?, outline, quotedRead]
  rfl

end ChaincodeConsole.Json.Outline
