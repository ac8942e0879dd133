import ChaincodeConsole.Json.Printer
import ChaincodeConsole.Proofs.Json.Fits

/-! A value that was read and has no floating number in it is read again from its text. The text
of a value stands for it wherever a value is wanted, so the containers are read by their parts. It
has no control characters, since strings escape them. -/
namespace ChaincodeConsole.Json

mutual
def floatFree : Json → Bool
  | .number (.floating _) => false
  | .array items => itemsFloatFree items
  | .object members => membersFloatFree members
  | _ => true

def itemsFloatFree : List Json → Bool
  | [] => true
  | v :: rest => floatFree v && itemsFloatFree rest

def membersFloatFree : List (String × Json) → Bool
  | [] => true
  | (_, v) :: rest => floatFree v && membersFloatFree rest
end

theorem itemsFree {items : List Json} :
    itemsFloatFree items = true ↔ ∀ v ∈ items, v.floatFree = true := by
  induction items with
  | nil => simp [itemsFloatFree]
  | cons v rest ih => simp [itemsFloatFree, ih]

theorem membersFree {members : List (String × Json)} :
    membersFloatFree members = true ↔ ∀ m ∈ members, m.2.floatFree = true := by
  induction members with
  | nil => simp [membersFloatFree]
  | cons m rest ih =>
    obtain ⟨k, v⟩ := m
    simp [membersFloatFree, ih]

open Reader

def Ended (rest : List Char) : Prop := ∀ c ∈ rest.head?, c = ',' ∨ c = ']' ∨ c = '}'

/-- Wherever a value is wanted and `room` more containers may be open, the text gives `v`. -/
def StandsFor (room : Nat) (text : List Char) (v : Json) : Prop :=
  ∀ m s rest w, m.wants = true → s.length + room ≤ depthLimit → Ended rest →
    (deliver v s).Yields rest w → Yields ⟨m, s⟩ (text ++ rest) w

theorem openStep {m : Mode} {c : Char} (free : m.wants = true) (s : List Frame)
    (filled : isSpace c = false) (other : c ≠ ']') : step ⟨m, s⟩ c = openValue s c := by
  cases m with
  | value | firstItem | item => simp [step, plainStep, filled, other]
  | _ => cases free

theorem deliverStep (v : Json) (s : List Frame) (c : Char) :
    (deliver v s).step c = (deliver v s).plainStep c := by
  unfold step
  split
  · rename_i n number
    exact absurd number (deliverOther (by simp) (by simp) v s)
  · rfl

theorem deliverEnd (v : Json) (s : List Frame) :
    (deliver v s).atEnd = (deliver v s).plainEnd := by
  unfold atEnd
  split
  · rename_i n number
    exact absurd number (deliverOther (by simp) (by simp) v s)
  · rfl

theorem wordStands {c : Char} {left : List Char} {v : Json} (known : (c, left, v) ∈ literals) :
    StandsFor 0 (c :: left) v := by
  intro m s rest w free _ _ later
  simp only [literals, List.mem_cons, Prod.mk.injEq, List.not_mem_nil, or_false] at known
  rcases known with ⟨rfl, rfl, rfl⟩ | ⟨rfl, rfl, rfl⟩ | ⟨rfl, rfl, rfl⟩ <;>
    exact (yieldsStep (openStep free s rfl (by decide))).mpr
      ((yieldsAfter (wordRun (List.cons_ne_nil _ _) _ s) rest w).mpr later)

def wholeNumeral (sign : Bool) (n : Nat) : Numeral := ⟨sign, n, if n = 0 then .zero else .whole⟩

theorem digitShown {d : Nat} (less : d < 10) : Numeral.digit? d.digitChar = some d := by
  have each : ∀ d : Fin 10, Numeral.digit? d.val.digitChar = some d.val := by decide
  exact each ⟨d, less⟩

theorem digitsRun (sign : Bool) {n : Nat} (fits : n ≤ significandLimit) (s : List Frame) :
    run ⟨.number ⟨sign, 0, .sign⟩, s⟩ (Layout.digits n) =
      .ok ⟨.number (wholeNumeral sign n), s⟩ := by
  induction n using Nat.strongRecOn with
  | ind n ih =>
    by_cases short : n < 10
    · rw [Layout.digits, Nat.toDigits_of_lt_base short, runOne]
      simp only [step, Numeral.step, digitShown short, wholeNumeral]
    · have last : n % 10 < 10 := Nat.mod_lt n (by omega)
      have more : n / 10 ≠ 0 := by omega
      have kept : n ≠ 0 := by omega
      have whole : n / 10 * 10 + n % 10 = n := by omega
      have front := ih (n / 10) (by omega) (by omega)
      rw [Layout.digits] at front ⊢
      rw [Nat.toDigits_of_base_le (by omega) (by omega), runAppend front, runOne]
      simp only [step, Numeral.step, Numeral.gather, digitShown last, wholeNumeral, if_neg more,
        if_neg kept, whole, if_pos fits]

theorem numberDelivers {n : Numeral} {x : Number} {s : List Frame} {rest : List Char} {w : Json}
    (value : n.value? = some (.ok x)) (ended : Ended rest)
    (later : (deliver (.number x) s).Yields rest w) : Yields ⟨.number n, s⟩ rest w := by
  cases rest with
  | nil =>
    obtain ⟨k, same, finished⟩ := later
    cases same
    refine ⟨⟨.number n, s⟩, rfl, ?_⟩
    rw [deliverEnd] at finished
    simp only [atEnd, value, finished]
  | cons c rest =>
    have past : n.step c = .past := by
      rcases ended c rfl with rfl | rfl | rfl <;>
        exact Numeral.completeOver value rfl (by decide) rfl
    have same : step ⟨.number n, s⟩ c = (deliver (.number x) s).step c := by
      rw [deliverStep]
      simp only [step, past, value]
    obtain ⟨k, read, finished⟩ := later
    refine ⟨k, ?_, finished⟩
    rw [run, same]
    exact read

theorem openDigit {m : Mode} {c : Char} (free : m.wants = true) (s : List Frame)
    (digit : c.isDigit = true) : step ⟨m, s⟩ c = step ⟨.number ⟨false, 0, .sign⟩, s⟩ c := by
  have filled : isSpace c = false := by
    by_contra blank
    simp only [isSpace, Bool.not_eq_false, Bool.or_eq_true, beq_iff_eq] at blank
    rcases blank with ((rfl | rfl) | rfl) | rfl <;> cases digit
  have other : c ≠ ']' := by
    rintro rfl
    cases digit
  have minus : c ≠ '-' := by
    rintro rfl
    cases digit
  have found : Numeral.digit? c = some (c.toNat - 48) := if_pos digit
  rw [openStep free s filled other]
  unfold openValue
  split
  · cases digit
  · cases digit
  · cases digit
  · cases digit
  · cases digit
  · cases digit
  · simp only [Numeral.open?, if_neg minus, found, Option.map_some, step, Numeral.step]

theorem naturalStands {n : Nat} (fits : n ≤ significandLimit) :
    StandsFor 0 (Layout.digits n) (.number (.natural n)) := by
  intro m s rest w free _ ended later
  have value : (wholeNumeral false n).value? = some (.ok (.natural n)) := by
    unfold wholeNumeral
    split <;> rfl
  obtain ⟨c, cs, split⟩ := List.exists_cons_of_ne_nil (Nat.toDigits_ne_nil (n := n) (b := 10))
  have digit : c.isDigit = true :=
    Nat.isDigit_of_mem_toDigits (b := 10) (n := n) (by omega) (by omega)
      (split ▸ List.mem_cons_self)
  have token := (yieldsAfter (digitsRun false fits s) rest w).mpr (numberDelivers value ended later)
  rw [Layout.digits, split, List.cons_append] at token ⊢
  obtain ⟨k, read, finished⟩ := token
  refine ⟨k, ?_, finished⟩
  rw [run, openDigit free s digit]
  exact read

theorem negativeStands {n : Nat} (fits : (Number.negative n).Fits) :
    StandsFor 0 ('-' :: Layout.digits n) (.number (.negative n)) := by
  intro m s rest w free _ ended later
  have value : (wholeNumeral true n).value? = some (.ok (.negative n)) := by
    have whole : (wholeNumeral true n).integer = .negative n := if_pos fits
    rw [wholeNumeral, if_neg fits.1] at whole ⊢
    rw [Numeral.value?, whole]
  have range : n ≤ significandLimit := fits.2.trans (by decide)
  refine (yieldsStep (openStep free s rfl (by decide))).mpr ?_
  exact (yieldsAfter (digitsRun true range s) rest w).mpr (numberDelivers value ended later)

theorem scalarRun {forKey : Bool} {held : List Char} {s : List Frame} {digits : List Char}
    {c : Char} {v d : Nat} (three : digits.length = 3) (value : hexNumber digits = some v)
    (digit : Text.hexValue? c = some d) (small : v * 16 + d < 0xD800) :
    (⟨.text forKey held .none, s⟩ : Reader).run ('\\' :: 'u' :: (digits ++ [c])) =
      .ok ⟨.text forKey (Char.ofNat (v * 16 + d) :: held) .none, s⟩ := by
  have opened : run ⟨.text forKey held .none, s⟩ ('\\' :: 'u' :: digits) =
      .ok ⟨.text forKey held (.unit none digits.length (some v)), s⟩ :=
    unitOpens none (by omega) value
  have single : ¬0xDC00 ≤ v * 16 + d := by omega
  have alone : ¬0xD800 ≤ v * 16 + d := by omega
  rw [← List.cons_append, ← List.cons_append, runAppend opened, runOne]
  simp [step, plainStep, textStep, escapeStep, unitStep, takeUnit, digit, hexSize digit, three,
    single, alone, bind, Except.bind, pure, Except.pure]

theorem hexShown {d : Nat} (less : d < 16) : Text.hexValue? (Text.lowerHexDigit d) = some d := by
  have each : ∀ d : Fin 16, Text.hexValue? (Text.lowerHexDigit d.val) = some d.val := by decide
  exact each ⟨d, less⟩

theorem escapedRun (forKey : Bool) (held : List Char) (s : List Frame) (c : Char) :
    run ⟨.text forKey held .none, s⟩ (escaped c) = .ok ⟨.text forKey (c :: held) .none, s⟩ := by
  have same : Char.ofNat c.toNat = c := Char.ofNat_toNat c
  unfold escaped
  split
  · rename_i quote
    subst quote
    rfl
  split
  · rename_i slash
    subst slash
    rfl
  split
  · rename_i back
    rw [← same, back]
    rfl
  split
  · rename_i tab
    subst tab
    rfl
  split
  · rename_i feed
    subst feed
    rfl
  split
  · rename_i form
    rw [← same, form]
    rfl
  split
  · rename_i back
    subst back
    rfl
  split
  · rename_i control
    have value : hexNumber ['0', '0', Text.lowerHexDigit (c.toNat / 16)] = some (c.toNat / 16) := by
      have digit := hexShown (show c.toNat / 16 < 16 by omega)
      have zero : Text.hexValue? '0' = some 0 := rfl
      simp [hexNumber, zero, digit]
    have whole : c.toNat / 16 * 16 + c.toNat % 16 = c.toNat := by omega
    have digit := hexShown (show c.toNat % 16 < 16 by omega)
    refine (scalarRun rfl value digit (by omega)).trans ?_
    rw [whole, same]
  · rename_i quote slash _ _ _ _ _ control
    rw [runOne]
    simp [step, plainStep, textStep, escapeStep, quote, slash, control, bind, Except.bind, pure,
      Except.pure]

theorem escapedTextRun (forKey : Bool) (held : List Char) (s : List Frame) (cs : List Char) :
    run ⟨.text forKey held .none, s⟩ (cs.flatMap escaped) =
      .ok ⟨.text forKey (cs.reverse ++ held) .none, s⟩ := by
  induction cs generalizing held with
  | nil => rfl
  | cons c cs ih =>
    rw [List.flatMap_cons, runAppend (escapedRun forKey held s c), ih]
    simp

theorem quotedYields {forKey : Bool} {s : List Frame} {text : String} {rest : List Char} {w : Json}
    (later : (closeText forKey text.toList.reverse s).Yields rest w) :
    Yields ⟨.text forKey [] .none, s⟩ (text.toList.flatMap escaped ++ '"' :: rest) w := by
  rw [yieldsAfter (escapedTextRun forKey [] s text.toList), List.append_nil]
  exact (yieldsStep rfl).mpr later

theorem quotedSplits (text : String) (rest : List Char) :
    quoted text ++ rest = '"' :: (text.toList.flatMap escaped ++ '"' :: rest) := by
  simp [quoted]

theorem stringStands (text : String) : StandsFor 0 (quoted text) (.string text) := by
  intro m s rest w free _ _ later
  rw [quotedSplits]
  refine (yieldsStep (openStep free s rfl (by decide))).mpr (quotedYields ?_)
  simpa [closeText] using later

theorem keyYields {m : Mode} {s : List Frame} {members : List (String × Json)} {key : String}
    {rest : List Char} {w : Json} (free : m.wantsKey = true)
    (later : Yields ⟨.value, .member members key :: s⟩ rest w) :
    Yields ⟨m, .record members :: s⟩ (quoted key ++ ':' :: rest) w := by
  rw [quotedSplits]
  have opened : step ⟨m, .record members :: s⟩ '"' =
      .ok ⟨.text true [] .none, .record members :: s⟩ := by
    cases m with
    | firstKey | key => rfl
    | _ => cases free
  refine (yieldsStep opened).mpr (quotedYields ?_)
  have named : closeText true key.toList.reverse (.record members :: s) =
      ⟨.colon key, .record members :: s⟩ := by simp [closeText]
  rw [named]
  exact (yieldsStep rfl).mpr later

theorem itemsEnded (items : List Json) (rest : List Char) :
    Ended (itemTail items ++ ']' :: rest) := by
  cases items with
  | nil =>
    rintro c ⟨⟩
    exact .inr (.inl rfl)
  | cons v items =>
    rintro c ⟨⟩
    exact .inl rfl

theorem itemsYield {room : Nat} {items : List Json} {s : List Frame} {rest : List Char} {w : Json}
    (each : ∀ v ∈ items, StandsFor room v.chars v) (free : s.length + 1 + room ≤ depthLimit)
    (held : List Json) (later : (deliver (.array (held.reverse ++ items)) s).Yields rest w) :
    Yields ⟨.next, .list held :: s⟩ (itemTail items ++ ']' :: rest) w := by
  induction items generalizing held with
  | nil =>
    rw [List.append_nil] at later
    exact (yieldsStep rfl).mpr later
  | cons v items ih =>
    obtain ⟨head, others⟩ := List.forall_mem_cons.mp each
    rw [itemTail, List.cons_append, List.append_assoc]
    refine (yieldsStep rfl).mpr ?_
    refine head .item _ _ w rfl (by simpa using free) (itemsEnded items rest) ?_
    exact ih others (v :: held) (by simpa using later)

theorem arrayStands {room : Nat} {items : List Json}
    (each : ∀ v ∈ items, StandsFor room v.chars v) :
    StandsFor (room + 1) (chars (.array items)) (.array items) := by
  intro m s rest w free deep _ later
  have opened : openValue s '[' = .ok ⟨.firstItem, .list [] :: s⟩ := if_pos (by omega)
  rw [chars, List.cons_append, List.append_assoc]
  refine (yieldsStep ((openStep free s rfl (by decide)).trans opened)).mpr ?_
  cases items with
  | nil => exact (yieldsStep rfl).mpr later
  | cons v items =>
    obtain ⟨head, others⟩ := List.forall_mem_cons.mp each
    rw [itemChars, List.append_assoc]
    refine head .firstItem _ _ w rfl (by simp; omega) (itemsEnded items rest) ?_
    exact itemsYield others (by omega) [v] later

theorem membersEnded (members : List (String × Json)) (rest : List Char) :
    Ended (memberTail members ++ '}' :: rest) := by
  cases members with
  | nil =>
    rintro c ⟨⟩
    exact .inr (.inr rfl)
  | cons m members =>
    rintro c ⟨⟩
    exact .inl rfl

theorem membersYield {room : Nat} {members : List (String × Json)} {s : List Frame}
    {rest : List Char} {w : Json} (each : ∀ m ∈ members, StandsFor room m.2.chars m.2)
    (free : s.length + 1 + room ≤ depthLimit) (held : List (String × Json))
    (later : (deliver (.object (gathered held members)) s).Yields rest w) :
    Yields ⟨.next, .record held :: s⟩ (memberTail members ++ '}' :: rest) w := by
  induction members generalizing held with
  | nil => exact (yieldsStep rfl).mpr later
  | cons m members ih =>
    obtain ⟨key, v⟩ := m
    obtain ⟨head, others⟩ := List.forall_mem_cons.mp each
    rw [memberTail]
    simp only [List.cons_append, List.append_assoc]
    refine (yieldsStep rfl).mpr (keyYields rfl ?_)
    refine head .value _ _ w rfl (by simpa using free) (membersEnded members rest) ?_
    exact ih others _ later

theorem objectStands {room : Nat} {members : List (String × Json)}
    (each : ∀ m ∈ members, StandsFor room m.2.chars m.2) :
    StandsFor (room + 1) (chars (.object members)) (.object (gathered [] members)) := by
  intro m s rest w free deep _ later
  have opened : openValue s '{' = .ok ⟨.firstKey, .record [] :: s⟩ := if_pos (by omega)
  rw [chars, List.cons_append, List.append_assoc]
  refine (yieldsStep ((openStep free s rfl (by decide)).trans opened)).mpr ?_
  cases members with
  | nil => exact (yieldsStep rfl).mpr later
  | cons m members =>
    obtain ⟨key, v⟩ := m
    obtain ⟨head, others⟩ := List.forall_mem_cons.mp each
    rw [memberChars]
    simp only [List.cons_append, List.append_assoc]
    refine keyYields rfl (head .value _ _ w rfl (by simp; omega) (membersEnded members rest) ?_)
    exact membersYield others (by omega) _ later

theorem standsMore {room more : Nat} {text : List Char} {v : Json} (stands : StandsFor room text v)
    (less : room ≤ more) : StandsFor more text v :=
  fun m s rest w free deep => stands m s rest w free (by omega)

theorem fitsStands {room : Nat} {v : Json} (fits : v.Fits room) (exact : v.floatFree = true) :
    StandsFor room v.chars v := by
  induction fits with
  | null => exact standsMore (wordStands (by simp [literals])) (Nat.zero_le _)
  | @bool room b =>
    cases b <;> exact standsMore (wordStands (by simp [literals])) (Nat.zero_le _)
  | @number room n fits =>
    cases n with
    | natural n => exact standsMore (naturalStands fits) (Nat.zero_le _)
    | negative n => exact standsMore (negativeStands fits) (Nat.zero_le _)
    | floating x => cases exact
  | string => exact standsMore (stringStands _) (Nat.zero_le _)
  | array _ ih => exact arrayStands fun v inside => ih v inside (itemsFree.mp exact v inside)
  | @object room members _ ordered ih =>
    have stands := objectStands fun m inside => ih m inside (membersFree.mp exact m inside)
    have whole : gathered [] members = members := gatheredOrdered ordered
    rwa [whole] at stands

theorem standsRead {text : List Char} {v : Json} (stands : StandsFor depthLimit text v) :
    ofText? (String.ofList text) = some v := by
  rw [textAccepted, String.toList_ofList, ← List.append_nil text]
  exact stands .value [] [] v rfl (by simp) nofun ⟨⟨.done v, []⟩, rfl, rfl⟩

theorem readAgain {v : Json} (fits : v.Fits depthLimit) (exact : v.floatFree = true) :
    ofText? v.text = some v :=
  standsRead (fitsStands fits exact)

theorem objectRead {members : List (String × Json)} {room : Nat} (shallow : room < depthLimit)
    (each : ∀ m ∈ members, m.2.Fits room) (exact : ∀ m ∈ members, m.2.floatFree = true) :
    ofText? (Json.object members).text = some (.object (gathered [] members)) := by
  have stands := objectStands fun m inside => fitsStands (each m inside) (exact m inside)
  exact standsRead (standsMore stands shallow)

def Printed (cs : List Char) : Prop := ∀ c ∈ cs, 32 ≤ c.toNat

theorem printedCons {c : Char} {cs : List Char} (shown : 32 ≤ c.toNat) (rest : Printed cs) :
    Printed (c :: cs) := List.forall_mem_cons.mpr ⟨shown, rest⟩

theorem printedOne {c : Char} (shown : 32 ≤ c.toNat) : Printed [c] := printedCons shown nofun

theorem printedAppend {a b : List Char} (front : Printed a) (back : Printed b) :
    Printed (a ++ b) := List.forall_mem_append.mpr ⟨front, back⟩

theorem escapedPrinted (c : Char) : Printed (escaped c) := by
  have hex (n : Nat) (less : n < 16) : 32 ≤ (Text.lowerHexDigit n).toNat := by
    have each : ∀ d : Fin 16, 32 ≤ (Text.lowerHexDigit d.val).toNat := by decide
    exact each ⟨n, less⟩
  unfold escaped
  iterate 7
    split
    · simp [Printed]
  split
  · rename_i control
    have first := hex (c.toNat / 16) (by omega)
    have second := hex (c.toNat % 16) (by omega)
    simp [Printed, first, second]
  · rename_i shown
    simpa [Printed] using shown

theorem quotedPrinted (text : String) : Printed (quoted text) := by
  refine printedCons (by decide) (printedAppend ?_ (printedOne (by decide)))
  intro c inside
  obtain ⟨d, -, spelled⟩ := List.mem_flatMap.mp inside
  exact escapedPrinted d c spelled

theorem digitsPrinted (n : Nat) : Printed (Layout.digits n) := by
  intro c inside
  have digit : c.isDigit = true := Nat.isDigit_of_mem_toDigits (by omega) (by omega) inside
  simp only [Char.isDigit, ge_iff_le, Bool.and_eq_true, decide_eq_true_eq,
    UInt32.le_iff_toNat_le] at digit
  exact le_trans (by decide) digit.1

theorem itemsPrinted {items : List Json} (each : ∀ v ∈ items, Printed v.chars) :
    Printed (itemTail items) := by
  induction items with
  | nil => exact nofun
  | cons v items ih =>
    obtain ⟨head, others⟩ := List.forall_mem_cons.mp each
    exact printedCons (by decide) (printedAppend head (ih others))

theorem membersPrinted {members : List (String × Json)}
    (each : ∀ m ∈ members, Printed m.2.chars) : Printed (memberTail members) := by
  induction members with
  | nil => exact nofun
  | cons m members ih =>
    obtain ⟨head, others⟩ := List.forall_mem_cons.mp each
    exact printedCons (by decide) (printedAppend (quotedPrinted m.1)
      (printedCons (by decide) (printedAppend head (ih others))))

theorem arrayPrinted {items : List Json} (each : ∀ v ∈ items, Printed v.chars) :
    Printed (chars (.array items)) := by
  refine printedCons (by decide) (printedAppend ?_ (printedOne (by decide)))
  cases items with
  | nil => exact nofun
  | cons v items =>
    obtain ⟨head, others⟩ := List.forall_mem_cons.mp each
    exact printedAppend head (itemsPrinted others)

theorem objectPrinted {members : List (String × Json)}
    (each : ∀ m ∈ members, Printed m.2.chars) : Printed (chars (.object members)) := by
  refine printedCons (by decide) (printedAppend ?_ (printedOne (by decide)))
  cases members with
  | nil => exact nofun
  | cons m members =>
    obtain ⟨head, others⟩ := List.forall_mem_cons.mp each
    exact printedAppend (quotedPrinted m.1) (printedCons (by decide)
      (printedAppend head (membersPrinted others)))

theorem fitsPrinted {room : Nat} {v : Json} (fits : v.Fits room) (exact : v.floatFree = true) :
    Printed v.chars := by
  induction fits with
  | null => simp [chars, Printed]
  | @bool room b => cases b <;> simp [chars, Printed]
  | @number room n fits =>
    cases n with
    | natural n => exact digitsPrinted n
    | negative n => exact printedCons (by decide) (digitsPrinted n)
    | floating x => cases exact
  | string => exact quotedPrinted _
  | array _ ih => exact arrayPrinted fun v inside => ih v inside (itemsFree.mp exact v inside)
  | object _ _ ih => exact objectPrinted fun m inside => ih m inside (membersFree.mp exact m inside)

end ChaincodeConsole.Json
