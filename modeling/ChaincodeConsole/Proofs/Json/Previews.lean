import ChaincodeConsole.Json.Preview
import ChaincodeConsole.Proofs.Json.Completing
import ChaincodeConsole.Proofs.Text.Trimming

/-! The preview of a text that a document continues shows what has been read of it. Only a blank
text and one that breaks off behind a leading surrogate have nothing to show, if the numbers of
the document are not too long. -/
namespace ChaincodeConsole.Json

open Reader

theorem plainEndDone {r : Reader} {v : Json} (ended : r.plainEnd = .ok v) : r.mode = .done v := by
  obtain ⟨mode, s⟩ := r
  cases mode with
  | done w =>
    cases ended
    rfl
  | next =>
    simp only [plainEnd] at ended
    split at ended <;> cases ended
  | _ => cases ended

theorem endCases {r : Reader} {v : Json} (ended : r.atEnd = .ok v) :
    r.mode = .done v ∨ ∃ n x, r.mode = .number n ∧ n.value? = some (.ok x) ∧
      (deliver (.number x) r.stack).mode = .done v := by
  unfold atEnd at ended
  split at ended
  · rename_i n mode
    split at ended
    · rename_i x value
      exact .inr ⟨n, x, mode, value, plainEndDone ended⟩
    · cases ended
    · cases ended
  · exact .inl (plainEndDone ended)

theorem endShown {r : Reader} {v : Json} (ended : r.atEnd = .ok v) : r.shown? = some v := by
  obtain ⟨mode, s⟩ := r
  rcases endCases ended with done | ⟨n, x, number, value, done⟩
  · simp only at done
    rw [done]
    rfl
  · simp only at number done
    rw [number, shownNumber value, ← shownDeliver, shown?, done]

theorem blankSeparates {c : Char} (blank : Text.isBlank c = true) : isSeparator c = true := by
  rw [isSeparator, blank, Bool.true_or]

theorem doneMove {v : Json} {s : List Frame} {c : Char} {next : Reader}
    (move : Move ⟨.done v, s⟩ c next) : next = ⟨.done v, s⟩ := by
  cases move with
  | space => rfl
  | openObject free | openList free | openText free | openKey free | openWord free
  | openNumber free => cases free

theorem doneYields {v w : Json} {s : List Frame} {cs : List Char}
    (read : (⟨.done w, s⟩ : Reader).Yields cs v) : cs.all Text.isBlank = true ∧ v = w := by
  induction cs with
  | nil =>
    obtain ⟨k, idle, ended⟩ := read
    cases idle
    exact ⟨rfl, (Except.ok.inj ended).symm⟩
  | cons c cs ih =>
    obtain ⟨k, whole, ended⟩ := read
    obtain ⟨m, -, move, later⟩ := runCons whole
    have same := doneMove move
    subst same
    obtain ⟨rest, value⟩ := ih ⟨k, later, ended⟩
    refine ⟨?_, value⟩
    rw [List.all_cons, rest, Bool.and_true]
    cases move with
    | space free blank => exact spaceBlank blank

theorem endMove {r next : Reader} {c : Char} {v : Json} (move : Move r c next)
    (blank : Text.isBlank c = true) (ended : r.atEnd = .ok v) : next.atEnd = .ok v := by
  have done {r next : Reader} (move : Move r c next) (done : r.mode = .done v) :
      next.atEnd = .ok v := by
    obtain ⟨mode, s⟩ := r
    simp only at done
    subst done
    rw [doneMove move]
    rfl
  obtain ⟨mode, s⟩ := r
  rcases endCases ended with mode | ⟨n, x, mode, value, delivered⟩
  · exact done move mode
  · simp only at mode
    subst mode
    cases move with
    | number more =>
      cases (tokenKept (moreToken more)).symm.trans (blankSeparates blank)
    | past _ found move =>
      cases found.symm.trans value
      exact done move delivered
    | space free | openObject free | openList free | openText free | openKey free | openWord free
    | openNumber free => cases free

theorem endRun {blanks : List Char} {r k : Reader} {v : Json} (read : r.run blanks = .ok k)
    (blank : blanks.all Text.isBlank = true) (ended : r.atEnd = .ok v) : k.atEnd = .ok v := by
  induction blanks generalizing r with
  | nil =>
    cases read
    exact ended
  | cons c blanks ih =>
    rw [List.all_cons, Bool.and_eq_true] at blank
    obtain ⟨m, -, move, later⟩ := runCons read
    exact ih later blank.2 (endMove move blank.1 ended)

theorem startMove {c : Char} {next : Reader} (move : Move start c next)
    (separates : isSeparator c = true) : next = start := by
  generalize begin : start = r at move
  cases move with
  | space => rfl
  | openWord _ known => cases (tokenKept (literalToken known)).symm.trans separates
  | openNumber _ opened => cases (tokenKept (openToken opened)).symm.trans separates
  | openObject | openList | openText => cases separates
  | _ => cases begin <;> contradiction

theorem leadingRun {lead rest : List Char} {k : Reader} (blank : lead.all Text.isBlank = true)
    (read : start.run (lead ++ rest) = .ok k) : start.run lead = .ok start := by
  induction lead with
  | nil => rfl
  | cons c lead ih =>
    rw [List.all_cons, Bool.and_eq_true] at blank
    obtain ⟨m, first, move, later⟩ := runCons read
    have same := startMove move (blankSeparates blank.1)
    subst same
    exact (runAppend first lead).trans (ih blank.2 later)

theorem leadingYields {lead rest : List Char} {v : Json} (blank : lead.all Text.isBlank = true)
    (read : start.Yields (lead ++ rest) v) : start.Yields rest v := by
  obtain ⟨k, whole, ended⟩ := read
  exact (yieldsAfter (leadingRun blank whole) rest v).mp ⟨k, whole, ended⟩

theorem notBlank {cs : List Char} {v : Json} (read : start.Yields cs v) :
    cs.all Text.isBlank = false := by
  by_contra blank
  rw [Bool.not_eq_false] at blank
  rw [← List.append_nil cs] at read
  obtain ⟨k, idle, ended⟩ := leadingYields blank read
  cases idle
  cases ended

/-- A text that some document continues, between the blanks at its ends: `k` is the reader after
what trimming keeps, `r` after the whole. -/
structure Trimmed (p lead blanks : List Char) (k r : Reader) : Prop where
  split : p = lead ++ Text.trimChars p ++ blanks
  leadBlank : lead.all Text.isBlank = true
  blank : blanks.all Text.isBlank = true
  kept : start.run (Text.trimChars p) = .ok k
  front : start.run (lead ++ Text.trimChars p) = .ok k
  rest : k.run blanks = .ok r
  whole : start.run p = .ok r
  live : r.Live

theorem trimmedRun {d p : List Char} {v : Json} (accepted : start.Yields d v) (cut : p <+: d) :
    ∃ lead blanks k r, Trimmed p lead blanks k r := by
  obtain ⟨after, rfl⟩ := cut
  obtain ⟨r, read, later⟩ := yieldsSplits accepted
  obtain ⟨lead, blanks, split, leadBlank, blank⟩ := Text.trimSplits p
  have parts := read
  rw [split] at parts
  obtain ⟨k, front, rest⟩ := runSplits parts
  have begun := leadingRun leadBlank front
  have kept := (runAppend begun (Text.trimChars p)).symm.trans front
  exact ⟨lead, blanks, k, r, split, leadBlank, blank, kept, front, rest, read, after, v, later⟩

theorem Trimmed.separate {p lead blanks : List Char} {k r : Reader}
    (trimmed : Trimmed p lead blanks k r) : ∀ c ∈ blanks, isSeparator c = true :=
  fun c member => blankSeparates (List.all_eq_true.mp trimmed.blank c member)

theorem textAccepted {text : String} {v : Json} :
    ofText? text = some v ↔ start.Yields text.toList v := accepted

theorem endOutside {r : Reader} {v : Json} (ended : r.atEnd = .ok v) : r.inText = false := by
  unfold inText
  rcases endCases ended with mode | ⟨n, x, mode, -, -⟩ <;> rw [mode]

theorem wholeShown {p lead blanks : List Char} {k r : Reader} {v : Json}
    (trimmed : Trimmed p lead blanks k r) (whole : start.Yields p v) : k.shown? = some v := by
  obtain ⟨last, read, ended⟩ := whole
  cases read.symm.trans trimmed.whole
  obtain ⟨-, same⟩ := separatorsRun trimmed.kept trimmed.rest trimmed.separate (endOutside ended)
  exact same.symm.trans (endShown ended)

theorem previewShows {p : String} {lead blanks : List Char} {k r : Reader}
    (trimmed : Trimmed p.toList lead blanks k r) :
    ((preview p).quality = .raw ↔ k.shown? = none) ∧
      ∀ v, k.shown? = some v → (preview p).value = v := by
  have live : k.Live := liveBefore trimmed.rest trimmed.live
  have completes := completedRead trimmed.kept (liveSound trimmed.kept live)
  -- A text that is a document already is not completed, and neither is one that lacks nothing.
  cases whole : ofText? p with
  | some v =>
    have shown := wholeShown trimmed (textAccepted.mp whole)
    simp [preview, whole, shown]
  | none =>
    have again (v : Json) : ofText? (String.ofList (completed (Text.trimChars p.toList))) = some v ↔
        k.shown? = some v := by rw [textAccepted, String.toList_ofList, completes]
    cases shown : k.shown? with
    | none =>
      have rejected : ofText? (String.ofList (completed (Text.trimChars p.toList))) = none := by
        refine Option.eq_none_iff_forall_ne_some.mpr fun v accepted => ?_
        cases ((again v).mp accepted).symm.trans shown
      by_cases same : completed (Text.trimChars p.toList) = Text.trimChars p.toList
      · simp [preview, whole, complete?, same]
      · simp [preview, whole, complete?, same, rejected]
    | some v =>
      by_cases same : completed (Text.trimChars p.toList) = Text.trimChars p.toList
      · have yields := (completes v).mpr shown
        rw [same] at yields
        obtain ⟨last, read, ended⟩ := yields
        cases read.symm.trans trimmed.kept
        have accepted : start.Yields p.toList v :=
          ⟨r, trimmed.whole, endRun trimmed.rest trimmed.blank ended⟩
        cases whole.symm.trans (textAccepted.mpr accepted)
      · simp [preview, whole, complete?, same, (again v).mpr shown]

/-- Each number token of a document is at most three hundred characters long: a stretch of the
text in which the reader reads a number after every character. -/
def NumbersFit (d : List Char) : Prop :=
  ∀ before token after, d = before ++ token ++ after →
    (∀ part, part <+: token → part ≠ [] →
      ∃ n s, start.run (before ++ part) = .ok ⟨.number n, s⟩) → token.length ≤ 300

theorem moveIntoNumber {r next : Reader} {c : Char} {n : Numeral} (move : Move r c next)
    (number : next.mode = .number n) : Numeral.open? c = some n ∨
      ∃ m, r = ⟨.number m, next.stack⟩ ∧ m.step c = .more n := by
  have delivered (v : Json) (s : List Frame) : (deliver v s).mode ≠ .number n :=
    deliverOther (by simp) (by simp) v s
  induction move with
  | space free =>
    cases number
    cases free
  | openNumber _ opened =>
    cases number
    exact .inl opened
  | number more =>
    cases number
    exact .inr ⟨_, rfl, more⟩
  | emptyList | emptyObject | closeList | closeObject | wordEnd | wordNone =>
    exact absurd number (delivered _ _)
  | @closeText key held s =>
    cases key with
    | true => cases number
    | false => exact absurd number (delivered _ _)
  | @past _ x _ s _ _ _ _ ih =>
    rcases ih number with opened | ⟨m, same, -⟩
    · exact .inl opened
    · exact absurd (congrArg Reader.mode same) (deliverOther (by simp) (by simp) _ s)
  | _ => cases number

theorem numberToken {cs : List Char} {n : Numeral} {s : List Frame}
    (read : start.run cs = .ok ⟨.number n, s⟩) :
    ∃ before token, cs = before ++ token ∧ Numeral.Reads token.reverse n ∧
      ∀ part, part <+: token → part ≠ [] →
        ∃ m t, start.run (before ++ part) = .ok ⟨.number m, t⟩ := by
  induction cs using List.reverseRecOn generalizing n with
  | nil => cases read
  | append_singleton cs c ih =>
    obtain ⟨m, first, move⟩ := runSnoc read
    rcases moveIntoNumber move rfl with opened | ⟨o, rfl, more⟩
    · refine ⟨cs, [c], rfl, .first opened, fun part begins filled => ?_⟩
      rcases List.prefix_concat_iff.mp (show part <+: [] ++ [c] from begins) with rfl | begun
      · exact ⟨n, s, read⟩
      · exact absurd (List.prefix_nil.mp begun) filled
    · obtain ⟨before, token, rfl, reads, parts⟩ := ih first
      refine ⟨before, token ++ [c], by simp, ?_, fun part begins filled => ?_⟩
      · rw [List.reverse_append]
        exact .more reads more
      · rcases List.prefix_concat_iff.mp begins with rfl | earlier
        · exact ⟨n, s, by rw [← List.append_assoc]; exact read⟩
        · exact parts part earlier filled

theorem powerLive {n : Numeral} {s : List Frame} {rest : List Char} {w : Json} {scale : Int}
    {e : Nat} (fits : n.significand ≤ significandLimit) (phase : n.phase = .power scale false e)
    (yields : Yields ⟨.number n, s⟩ rest w) : ∃ x, n.value? = some (.ok x) := by
  induction rest generalizing n e with
  | nil =>
    obtain ⟨k, read, ended⟩ := yields
    cases read
    rcases endCases ended with mode | ⟨m, x, mode, value, -⟩
    · cases mode
    · cases mode
      exact ⟨x, value⟩
  | cons c rest ih =>
    obtain ⟨k, read, ended⟩ := yields
    obtain ⟨sign, significand, p⟩ := n
    simp only at phase fits
    subst phase
    cases stepped : Numeral.step ⟨sign, significand, .power scale false e⟩ c with
    | more m =>
      simp only [run, step, stepped] at read
      cases Numeral.stepExtends stepped with
      | point known | mark known => cases known
      | fraction _ behind | fractionFull _ behind | power _ behind => simp at behind
      | powerMore digit =>
        obtain ⟨x, value⟩ := ih fits rfl ⟨k, read, ended⟩
        exact Numeral.powerLess fits (by omega) value
      | powerFull _ free =>
        rcases free with rfl | down
        · exact Numeral.powerZero
        · cases down
    | past =>
      simp only [run, step, stepped] at read
      split at read
      · rename_i next moved
        split at moved
        · rename_i x value
          exact ⟨x, value⟩
        · cases moved
        · cases moved
      · cases read
    | stop s =>
      simp only [run, step, stepped] at read
      cases read

theorem numberShown {cs rest : List Char} {n : Numeral} {s : List Frame} {w : Json}
    (fits : NumbersFit (cs ++ rest)) (read : start.run cs = .ok ⟨.number n, s⟩)
    (yields : Yields ⟨.number n, s⟩ rest w) : ∃ x, n.shown? = some x := by
  obtain ⟨before, token, rfl, reads, parts⟩ := numberToken read
  have short := fits before token rest rfl parts
  have bounded := Numeral.readsBounded reads
  rw [← List.length_reverse] at short
  exact Numeral.shownFinite bounded short fun scale e phase =>
    powerLive bounded.1 phase yields

def Waits (r : Reader) : Prop :=
  ∃ forKey held e s h, r = ⟨.text forKey held e, s⟩ ∧ e.waiting? = some h

theorem nothingShown {cs rest : List Char} {k : Reader} {w : Json} (fits : NumbersFit (cs ++ rest))
    (read : start.run cs = .ok k) (yields : k.Yields rest w) :
    k.shown? = none ↔ k = start ∨ Waits k := by
  have shaped := shapedRun read (liveSound read ⟨rest, w, yields⟩)
  obtain ⟨mode, s⟩ := k
  constructor
  · intro nothing
    -- Only at the start is no container open to be closed around what is missing.
    cases mode with
    | value =>
      cases s with
      | nil => exact .inl rfl
      | cons frame s => cases nothing
    | number n =>
      obtain ⟨x, shown⟩ := numberShown fits read yields
      simp [shown?, shown] at nothing
    | text forKey held e =>
      cases waits : e.waiting? with
      | some h => exact .inr ⟨forKey, held, e, s, h, rfl, waits⟩
      | none => cases forKey <;> simp [shown?, waits] at nothing
    | item =>
      obtain ⟨items, below, ⟨⟩⟩ := shaped
      cases nothing
    | key =>
      obtain ⟨members, below, ⟨⟩⟩ := shaped
      cases nothing
    | next =>
      rcases shaped with ⟨items, below, ⟨⟩⟩ | ⟨members, below, ⟨⟩⟩ <;> cases nothing
    | _ => cases nothing
  · rintro (same | ⟨forKey, held, e, below, h, same, waits⟩)
    · cases same
      rfl
    · cases same
      simp [shown?, waits]

theorem intoStart {r next : Reader} {c : Char} (move : Move r c next) (begin : next = start) :
    r = start ∧ isSpace c = true := by
  have delivered (v : Json) (s : List Frame) : deliver v s ≠ start := fun same =>
    deliverOther (by simp [start]) (by simp [start]) v s (congrArg Reader.mode same)
  induction move with
  | space _ blank => exact ⟨begin, blank⟩
  | emptyList | emptyObject | closeList | closeObject | wordEnd | wordNone =>
    exact absurd begin (delivered _ _)
  | @closeText key held s =>
    cases key with
    | true => cases begin
    | false => exact absurd begin (delivered _ _)
  | past _ _ _ ih => exact absurd (ih begin).1 (delivered _ _)
  | _ => cases begin

theorem startBlank {cs : List Char} (read : start.run cs = .ok start) :
    cs.all Text.isBlank = true := by
  have law := soundRun (P := fun rev r => r = start → ∀ c ∈ rev, Text.isBlank c = true)
    (fun _ => nofun) (fun rev r c next blank _ move _ begin => by
      obtain ⟨same, space⟩ := intoStart move begin
      rintro d member
      rcases List.mem_cons.mp member with rfl | earlier
      · exact spaceBlank space
      · exact blank same d earlier) read ⟨nofun, nofun⟩ rfl
  exact List.all_eq_true.mpr fun c member => law c (List.mem_reverse.mpr member)

theorem hexToken {c : Char} {d : Nat} (digit : Text.hexValue? c = some d) : inToken c = true := by
  have hex := (hexDigitIff c).mpr ⟨d, digit⟩
  simp only [isHexDigit, Bool.or_eq_true, Bool.and_eq_true, decide_eq_true_eq] at hex
  rcases hex with (⟨low, high⟩ | ⟨low, high⟩) | ⟨low, high⟩
  · have range : c.isDigit = true := by simpa [Char.isDigit] using ⟨low, high⟩
    simp [inToken, range]
  · have below : c ≤ 'z' := Char.le_trans high (by decide)
    exact letterToken (by simp [isLetter, low, below])
  · have below : c ≤ 'Z' := Char.le_trans high (by decide)
    exact letterToken (by simp [isLetter, low, below])

theorem spellsKept {held next : List Char} {e f : Escape} {c : Char}
    (spelled : Spells held e c next f)
    (waits : e.waiting?.isSome = true ∨ f.waiting?.isSome = true)
    (sound : ∀ high taken, f ≠ .unit high taken none) : isSeparator c = false := by
  cases spelled with
  | plain | slash | letter | unit => simp [Escape.waiting?] at waits
  | digit digit | scalar digit | lead digit | pair digit => exact tokenKept (hexToken digit)
  | lost => exact absurd rfl (sound _ _)
  | pairSlash | pairLetter => rfl

theorem blankMove {r next : Reader} {c : Char} (move : Move r c next)
    (separates : isSeparator c = true) (sound : next.Sound) : ¬Waits r ∧ ¬Waits next := by
  constructor
  · rintro ⟨forKey, held, e, s, h, rfl, waits⟩
    cases move with
    | spell spelled =>
      have kept := spellsKept spelled (.inl (by rw [waits]; rfl)) fun high taken same =>
        sound.digits forKey _ high taken (by rw [same])
      cases kept.symm.trans separates
    | closeText => cases waits
    | space free | openObject free | openList free | openText free | openKey free | openWord free
    | openNumber free => cases free
  · rintro ⟨forKey, held, e, s, h, rfl, waits⟩
    rcases moveIntoText move rfl with ⟨rfl, -⟩ | ⟨before, f, rfl, spelled⟩
    · cases waits
    · have kept := spellsKept spelled (.inr (by rw [waits]; rfl)) fun high taken same =>
        sound.digits forKey _ high taken (by rw [same])
      cases kept.symm.trans separates

theorem blanksRun {cs blanks : List Char} {k r : Reader} (read : start.run cs = .ok k)
    (rest : k.run blanks = .ok r) (separate : ∀ c ∈ blanks, isSeparator c = true)
    (sound : r.Sound) (filled : blanks ≠ []) : ¬Waits k ∧ ¬Waits r := by
  induction blanks generalizing cs k with
  | nil => exact absurd rfl filled
  | cons c blanks ih =>
    obtain ⟨m, first, move, later⟩ := runCons rest
    have longer : start.run (cs ++ [c]) = .ok m := (runAppend read [c]).trans first
    obtain ⟨before, after⟩ := blankMove move
      (separate c List.mem_cons_self) (soundEarlier longer later sound)
    cases blanks with
    | nil =>
      cases later
      exact ⟨before, after⟩
    | cons d blanks =>
      refine ⟨before, (ih longer later (fun e member => ?_) (List.cons_ne_nil d blanks)).2⟩
      exact separate e (List.mem_cons_of_mem c member)

theorem waitsTrimmed {p lead blanks : List Char} {k r : Reader}
    (trimmed : Trimmed p lead blanks k r) : Waits k ↔ Waits r := by
  by_cases bare : blanks = []
  · have rest := trimmed.rest
    subst bare
    cases rest
    rfl
  · obtain ⟨before, after⟩ := blanksRun trimmed.kept trimmed.rest trimmed.separate
      (liveSound trimmed.whole trimmed.live) bare
    exact iff_of_false before after

theorem startTrimmed {p : String} {lead blanks : List Char} {k r : Reader}
    (trimmed : Trimmed p.toList lead blanks k r) : k = start ↔ Text.blank p = true := by
  constructor
  · rintro rfl
    rw [Text.blank, trimmed.split, List.all_append, List.all_append, trimmed.leadBlank,
      startBlank trimmed.kept, trimmed.blank]
    rfl
  · intro blank
    have kept := trimmed.kept
    rw [Text.trimNil.mpr blank] at kept
    cases kept
    rfl

theorem rawExactly {d p : String} {v : Json} (accepted : ofText? d = some v)
    (fits : NumbersFit d.toList) (cut : p.toList <+: d.toList) :
    (preview p).quality = .raw ↔ Text.blank p = true ∨ CutInPair p.toList := by
  obtain ⟨lead, blanks, k, r, trimmed⟩ := trimmedRun (textAccepted.mp accepted) cut
  obtain ⟨after, whole⟩ := cut
  have split : d.toList = (lead ++ Text.trimChars p.toList) ++ (blanks ++ after) := by
    rw [← whole, ← List.append_assoc, ← trimmed.split]
  have read := textAccepted.mp accepted
  rw [split, yieldsAfter trimmed.front] at read
  rw [split] at fits
  rw [(previewShows trimmed).1, nothingShown fits trimmed.front read, startTrimmed trimmed,
    waitsTrimmed trimmed, cutInPair trimmed.whole (liveSound trimmed.whole trimmed.live), Waits]

theorem rawInPair : (preview "[\"\\ud83d\\").quality = .raw :=
  (rawExactly (d := "[\"\\ud83d\\ude00\"]") (v := .array [.string "😀"]) (by rfl)
    (fun before token after same _ => by
      have whole := congrArg List.length same
      simp only [List.length_append] at whole
      have short : "[\"\\ud83d\\ude00\"]".toList.length ≤ 300 := by decide
      omega) (by decide)).mpr
    (.inr ⟨"[\"".toList, "d83d".toList, "\\".toList, false, [], [.list []], 0xD83D, by rfl, by rfl,
      rfl, by rfl, by decide, by decide, .inr (.inl rfl)⟩)

end ChaincodeConsole.Json
