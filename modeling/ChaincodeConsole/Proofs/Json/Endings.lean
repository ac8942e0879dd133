import ChaincodeConsole.Proofs.Json.Completing
import ChaincodeConsole.Proofs.Text.Trimming

/-! Texts that lack nothing at their end. Whatever a text is, JSON or not, completing it once ends
every string, container, key, literal and number in it, and completing it again changes nothing. -/
namespace ChaincodeConsole.Json

open Reader

/-- Nothing is open at the end of the text, no separator stands there, and no token is cut. -/
structure Whole (cs : List Char) : Prop where
  outside : (Scan.ofChars cs).inString = false
  closed : (Scan.ofChars cs).stack = []
  last : ∀ c ∈ cs.getLast?, isSeparator c = false
  finished : valueRest false cs.reverse = []

theorem separatorsKept {rev : List Char} (last : ∀ c ∈ rev.head?, isSeparator c = false) :
    dropSeparators rev = rev := by
  cases rev with
  | nil => rfl
  | cons c rev => exact List.dropWhile_cons_of_neg (Bool.not_eq_true _ ▸ last c rfl)

theorem wholeCompleted {cs : List Char} (whole : Whole cs) : completed cs = cs := by
  have kept : dropSeparators cs.reverse = cs.reverse := separatorsKept (by
    rw [List.head?_reverse]
    exact whole.last)
  have awaits : (Scan.ofChars cs).awaitsColon = false := by rw [Scan.awaitsColon, whole.closed]
  have closers : (Scan.ofChars cs).closers = [] := by rw [Scan.closers, whole.closed, List.map_nil]
  rw [completedKept whole.outside, kept, List.reverse_reverse, finish, awaits, closers,
    whole.finished, List.append_nil, List.append_nil]

theorem scanTokens {s : Scan} {cs : List Char} (outside : s.inString = false)
    (tokens : ∀ c ∈ cs, inToken c = true) : cs.foldl Scan.step s = s := by
  induction cs with
  | nil => rfl
  | cons c cs ih =>
    obtain ⟨first, rest⟩ := List.forall_mem_cons.mp tokens
    rw [List.foldl_cons, Scan.stepPlain outside (tokenPlain first), ih rest]

theorem wordRestSome {word rest : List Char} (found : wordRest? word = some rest) :
    word ++ rest ∈ words := by
  unfold wordRest? at found
  split at found
  · cases found
  · obtain ⟨w, first, rfl⟩ := Option.map_eq_some_iff.mp found
    have known := List.mem_of_find?_eq_some first
    have fits := List.find?_some first
    simp only [Bool.and_eq_true, decide_eq_true_eq, List.isPrefixOf_iff_prefix] at fits
    obtain ⟨-, rest, rfl⟩ := fits
    rwa [List.drop_left]

theorem numberRestCases (rev : List Char) : numberRest rev = ['0'] ∨ numberRest rev = [] := by
  unfold numberRest
  repeat' split
  all_goals simp

theorem literalRestCases (rev : List Char) :
    (∃ word before, rev = word ++ before ∧ word.reverse ++ literalRest rev ∈ words ∧
      ∀ c ∈ before.head?, isLetter c = false) ∨
    literalRest rev = ['0'] ∨ literalRest rev = [] := by
  unfold literalRest
  split
  · rename_i rest found
    refine .inl ⟨rev.takeWhile isLetter, rev.dropWhile isLetter,
      List.takeWhile_append_dropWhile.symm, wordRestSome found, ?_⟩
    intro c inside
    have head := List.head?_dropWhile_not isLetter rev
    simpa [Option.mem_def.mp inside] using head
  · exact .inr (numberRestCases rev)

theorem restTokens (rev : List Char) : ∀ c ∈ literalRest rev, inToken c = true := by
  intro c inside
  rcases literalRestCases rev with ⟨word, before, -, known, -⟩ | zero | unread
  · exact letterToken (wordsLetters _ known c (List.mem_append_right _ inside))
  · rw [zero] at inside
    cases List.mem_singleton.mp inside
    rfl
  · rw [unread] at inside
    cases inside

theorem scanRest {s : Scan} (outside : s.inString = false) (rev : List Char) :
    ((valueRest s.awaitsColon rev).foldl Scan.step s).inString = false ∧
      ((valueRest s.awaitsColon rev).foldl Scan.step s).closers = s.closers := by
  have null : ∀ c ∈ ['n', 'u', 'l', 'l'], inToken c = true := List.all_eq_true.mp rfl
  unfold valueRest
  split
  · have colon : s.step ':' =
        { s with stack := Scan.markColon false s.stack, expectKey := false } := by
      simp [Scan.step, outside]
    have still : (s.step ':').inString = false := by rw [colon]; exact outside
    rw [List.foldl_cons, scanTokens still null]
    have marked : (s.step ':').stack = Scan.markColon false s.stack := by rw [colon]
    exact ⟨still, markedClosers marked⟩
  · split
    · rw [scanTokens outside null]
      exact ⟨outside, rfl⟩
    · rw [scanTokens outside (restTokens rev)]
      exact ⟨outside, rfl⟩

theorem scanClosers {s : Scan} (outside : s.inString = false) :
    (s.closers.foldl Scan.step s).inString = false ∧ (s.closers.foldl Scan.step s).stack = [] := by
  obtain ⟨stack, inString, escaped, stringIsKey, expectKey⟩ := s
  obtain rfl : inString = false := outside
  induction stack generalizing expectKey with
  | nil => exact ⟨rfl, rfl⟩
  | cons bracket stack ih =>
    cases bracket with
    | object awaits => exact ih false
    | array => exact ih false

theorem finishScan {cs : List Char} (outside : (Scan.ofChars cs).inString = false) :
    (Scan.ofChars (finish cs)).inString = false ∧ (Scan.ofChars (finish cs)).stack = [] := by
  obtain ⟨still, same⟩ := scanRest outside cs.reverse
  rw [finish, Scan.ofChars, List.foldl_append, List.foldl_append, ← Scan.ofChars, ← same]
  exact scanClosers still

theorem closersQuiet (s : Scan) : ∀ c ∈ s.closers, c = '}' ∨ c = ']' := by
  intro c inside
  obtain ⟨bracket, -, rfl⟩ := List.mem_map.mp inside
  cases bracket with
  | object awaits => exact .inl rfl
  | array => exact .inr rfl

theorem restLiteral {rev : List Char} (other : rev.head? ≠ some ':') :
    valueRest false rev = literalRest rev := by
  rw [valueRest, if_neg Bool.false_ne_true, if_neg other]

theorem wordFinished {w before : List Char} (known : w ∈ words)
    (plain : ∀ c ∈ before.head?, isLetter c = false) :
    (∀ c ∈ (w.reverse ++ before).head?, isSeparator c = false) ∧
      valueRest false (w.reverse ++ before) = [] := by
  have rest := wholeRest known plain
  simp only [words, List.mem_cons, List.not_mem_nil, or_false] at known
  rcases known with rfl | rfl | rfl
  all_goals
    refine ⟨?_, (restLiteral (by simp)).trans rest⟩
    rintro c ⟨⟩
    rfl

theorem restFinishes {rev : List Char} (last : ∀ c ∈ rev.head?, isSeparator c = false) :
    (∀ c ∈ ((valueRest false rev).reverse ++ rev).head?, isSeparator c = false) ∧
      valueRest false ((valueRest false rev).reverse ++ rev) = [] := by
  by_cases colon : rev.head? = some ':'
  · have null : valueRest false rev = ['n', 'u', 'l', 'l'] := by
      rw [valueRest, if_neg Bool.false_ne_true, if_pos colon]
    have plain : ∀ c ∈ rev.head?, isLetter c = false := by
      rw [colon]
      rintro c ⟨⟩
      rfl
    rw [null]
    exact wordFinished (by simp [words]) plain
  · rw [restLiteral colon]
    rcases literalRestCases rev with ⟨word, before, same, known, plain⟩ | zero | unread
    · have finished := wordFinished known plain
      rwa [List.reverse_append, List.reverse_reverse, List.append_assoc, ← same] at finished
    · rw [zero]
      refine ⟨?_, restLiteral (by simp)⟩
      rintro c ⟨⟩
      rfl
    · rw [unread]
      exact ⟨last, (restLiteral colon).trans unread⟩

theorem finishWhole {cs : List Char} (outside : (Scan.ofChars cs).inString = false)
    (last : ∀ c ∈ cs.getLast?, isSeparator c = false) : Whole (finish cs) := by
  obtain ⟨still, closed⟩ := finishScan outside
  suffices ends : (∀ c ∈ (finish cs).reverse.head?, isSeparator c = false) ∧
      valueRest false (finish cs).reverse = [] by
    rw [List.head?_reverse] at ends
    exact ⟨still, closed, ends.1, ends.2⟩
  cases closers : (Scan.ofChars cs).closers.reverse with
  | nil =>
    have empty : (Scan.ofChars cs).stack = [] := by simpa [Scan.closers] using closers
    have awaits : (Scan.ofChars cs).awaitsColon = false := by rw [Scan.awaitsColon, empty]
    rw [← List.head?_reverse] at last
    rw [finish, awaits, List.reverse_append, closers, List.nil_append, List.reverse_append]
    exact restFinishes last
  | cons c more =>
    have closer := closersQuiet _ c (List.mem_reverse.mp (closers ▸ List.mem_cons_self))
    rw [finish, List.reverse_append, closers, List.cons_append]
    rcases closer with rfl | rfl
    all_goals
      refine ⟨?_, (restLiteral (by simp)).trans (quietRest _ (by decide))⟩
      rintro c ⟨⟩
      rfl

theorem hexStays {s : Scan} {digits : List Char} (inside : s.inString = true)
    (free : s.escaped = false) (hex : ∀ c ∈ digits, isHexDigit c = true) :
    digits.foldl Scan.step s = s := by
  induction digits with
  | nil => rfl
  | cons c digits ih =>
    obtain ⟨first, rest⟩ := List.forall_mem_cons.mp hex
    obtain ⟨d, digit⟩ := (hexDigitIff c).mp first
    obtain ⟨slash, quote⟩ := hexPlain digit
    rw [List.foldl_cons, Scan.stepText inside free slash quote, ih rest]

theorem unitStays {s : Scan} {digits : List Char} (inside : s.inString = true)
    (free : s.escaped = false) (hex : ∀ c ∈ digits, isHexDigit c = true) :
    ('\\' :: 'u' :: digits).foldl Scan.step s = s := by
  obtain ⟨stack, inString, escaped, stringIsKey, expectKey⟩ := s
  obtain rfl : inString = true := inside
  obtain rfl : escaped = false := free
  change digits.foldl Scan.step ⟨stack, true, false, stringIsKey, expectKey⟩ = _
  exact hexStays rfl rfl hex

theorem closesText {cs : List Char} (inside : (Scan.ofChars cs).inString = true) :
    ∃ front, front <+: cs ∧ Closes cs front := by
  have outsideFree (cs : List Char) (outside : (Scan.ofChars cs).inString = false) :
      (Scan.ofChars cs).escaped = false := by rw [slashParity, outside, Bool.false_and]
  cases escaped : (Scan.ofChars cs).escaped with
  | true =>
    rcases List.eq_nil_or_concat cs with rfl | ⟨front, c, rfl⟩
    · cases escaped
    · rw [List.concat_eq_append] at *
      rw [scanSnoc] at inside escaped
      have last := Scan.escapedStep (c := c) (outsideFree front)
      rw [escaped, inside, Bool.true_and, eq_comm, Bool.and_eq_true, beq_iff_eq,
        Bool.not_eq_true'] at last
      obtain ⟨rfl, free⟩ := last
      have opened : (Scan.ofChars front).inString = true := by
        have slash : ∀ c ∈ ['\\'], c ≠ '"' := by simp
        exact (unquotedStays slash).symm.trans inside
      have slash := Scan.stepSlash opened free
      refine ⟨front, List.prefix_append _ _, ?_, opened, free, ?_, ?_⟩
      · rw [closeCutString, scanSnoc, slash]
        simp
      · rw [scanSnoc, slash]
      · rw [scanSnoc, slash]
  | false =>
    rcases dropCutUnitCases cs.reverse with same | ⟨digits, before, ends⟩
    · refine ⟨cs, List.prefix_refl _, ?_, inside, escaped, rfl, rfl⟩
      rw [closeCutString, escaped, if_neg Bool.false_ne_true, same]
    · have split : cs = before.reverse ++ '\\' :: 'u' :: digits.reverse := by
        rw [← List.reverse_reverse cs, ends.same]
        simp
      have hex : ∀ c ∈ digits.reverse, isHexDigit c = true := by
        simpa using ends.hex
      have scanned : Scan.ofChars cs =
          ('\\' :: 'u' :: digits.reverse).foldl Scan.step (Scan.ofChars before.reverse) := by
        rw [split, Scan.ofChars, List.foldl_append, ← Scan.ofChars]
      have opened : (Scan.ofChars before.reverse).inString = true := by
        rw [← inside, scanned, unquotedStays]
        intro c member
        rcases List.mem_cons.mp member with rfl | member
        · decide
        rcases List.mem_cons.mp member with rfl | member
        · decide
        obtain ⟨d, digit⟩ := (hexDigitIff c).mp (hex c member)
        exact (hexPlain digit).2
      have free : (Scan.ofChars before.reverse).escaped = false := by
        rw [slashParity, List.reverse_reverse, ends.even]
        simp
      rw [unitStays opened free hex] at scanned
      refine ⟨before.reverse, ⟨_, split.symm⟩, ?_, opened, free, ?_, ?_⟩
      · rw [closeCutString, escaped, if_neg Bool.false_ne_true, dropCutUnitDrops ends,
          List.reverse_reverse]
      · rw [scanned]
      · rw [scanned]

theorem headKept {front cs : List Char} (begins : front <+: cs) :
    ∀ c ∈ front.head?, c ∈ cs.head? := by
  obtain ⟨rest, rfl⟩ := begins
  cases front with
  | nil => nofun
  | cons c front => exact fun _ same => same

theorem completedFinishes (cs : List Char) : ∃ kept, completed cs = finish kept ∧
    (Scan.ofChars kept).inString = false ∧ (∀ c ∈ kept.getLast?, isSeparator c = false) ∧
    ∀ c ∈ kept.head?, c = '"' ∨ c ∈ cs.head? := by
  cases inside : (Scan.ofChars cs).inString with
  | false =>
    obtain ⟨seps, split, -, last⟩ := separatorsSplit cs
    exact ⟨_, completedKept inside, keptOutside inside, last,
      fun c first => .inr (headKept ⟨seps, split.symm⟩ c first)⟩
  | true =>
    obtain ⟨front, begins, closes⟩ := closesText inside
    refine ⟨_, completedClosed inside closes, ?_, ?_, ?_⟩
    · rw [scanSnoc, Scan.stepQuote closes.inside closes.free, Scan.closeString]
      split <;> rfl
    · rw [List.getLast?_concat]
      rintro c ⟨⟩
      rfl
    · intro c first
      cases front with
      | nil => exact .inl (Option.some.inj first).symm
      | cons d front => exact .inr (headKept begins c first)

theorem finishHead (kept : List Char) : ∀ c ∈ (finish kept).head?, c ∈ kept.head? := by
  cases kept with
  | nil => nofun
  | cons c kept => exact fun _ same => same

theorem completedTrimmed (text : List Char) :
    Text.trimChars (completed (Text.trimChars text)) = completed (Text.trimChars text) := by
  obtain ⟨kept, same, outside, last, first⟩ := completedFinishes (Text.trimChars text)
  rw [same]
  refine Text.trimEnds ?_ ?_
  · intro c head
    rcases first c (finishHead kept c head) with rfl | begins
    · rfl
    · exact Text.trimHead text c begins
  · intro c ends
    have kept := (finishWhole outside last).last c ends
    rw [isSeparator, Bool.or_eq_false_iff] at kept
    exact kept.1

/-- What completing gives lacks nothing, and completing it again finds nothing to change. -/
theorem completesOnce {text out : String} (completes : complete? text = some out) :
    Whole out.toList ∧ complete? out = none := by
  have same : out.toList = completed (Text.trimChars text.toList) := by
    simp only [complete?] at completes
    split at completes
    · cases completes
    · rw [← Option.some.inj completes, String.toList_ofList]
  obtain ⟨kept, finished, outside, last, -⟩ := completedFinishes (Text.trimChars text.toList)
  have whole : Whole out.toList := by
    rw [same, finished]
    exact finishWhole outside last
  have trimmed : Text.trimChars out.toList = out.toList := by
    rw [same]
    exact completedTrimmed text.toList
  refine ⟨whole, ?_⟩
  rw [complete?, trimmed, wholeCompleted whole, if_pos rfl]

-- A stray bracket, a key without a value and an escape that breaks off in a second string.
theorem garbageCompletesOnce :
    complete? " ]\x7b\"a\" \"\\u00" = some "]\x7b\"a\" \"\":null\x7d" ∧
      Whole "]\x7b\"a\" \"\":null\x7d".toList ∧
      complete? "]\x7b\"a\" \"\":null\x7d" = none := by
  have completes : complete? " ]\x7b\"a\" \"\\u00" = some "]\x7b\"a\" \"\":null\x7d" := by rfl
  exact ⟨completes, completesOnce completes⟩

end ChaincodeConsole.Json
