import ChaincodeConsole.Proofs.Json.Arrivals
import ChaincodeConsole.Proofs.Json.Nesting

/-! Previews are faithful. A value that has arrived, with the separator or bracket behind it, is
shown at its place as the document has it, and a string in reading is shown as a part of its
final text. Only a key that breaks off hides the member that has its name so far. -/
namespace ChaincodeConsole.Json

open Reader

/-- The whole text of a value and the separator or bracket behind it stand in `p`. -/
def Arrived (p : List Char) (path : List Place) (w : Json) : Prop :=
  ∃ before text after r, p = before ++ text ++ after ∧ start.run before = .ok r ∧
    r.mode.wants = true ∧ path = pathOf r.stack ∧ (ofChars text).toOption = some w ∧
    ∃ c ∈ after.head?, c = ',' ∨ c = ']' ∨ c = '}'

/-- The text breaks off in a key; the path is that of the member with the key so far, white space
at the end left out. -/
def CutKey (p : List Char) (path : List Place) : Prop :=
  ∃ held e members s,
    start.run (Text.trimChars p) = .ok ⟨.text true held e, .record members :: s⟩ ∧
      path = pathOf s ++ [.key (String.ofList held.reverse)]

def CutText (p : List Char) (path : List Place) : Prop :=
  ∃ held e s, start.run p = .ok ⟨.text false held e, s⟩ ∧ path = pathOf s

structure Faithful (p : List Char) (shown whole : Json) : Prop where
  arrived : ∀ path w, Arrived p path w → at? path whole = some w
  kept : ∀ path w, Arrived p path w → (∀ key, CutKey p key → ¬key <+: path) →
    at? path shown = some w
  key : ∀ path, CutKey p path → at? path shown = some .null
  text : ∀ path, CutText p path → ∃ part full, at? path shown = some (.string part) ∧
    at? path whole = some (.string full) ∧ part.toList <+: full.toList

theorem markerNoNumber {n m : Numeral} {c : Char} (marker : c = ',' ∨ c = ']' ∨ c = '}')
    (more : n.step c = .more m) : False := by
  have token := moreToken more
  rcases marker with rfl | rfl | rfl <;> cases token

theorem arrivedKept {d p : List Char} {path : List Place} {w : Json} {r : Reader}
    (distinct : DistinctKeys d) (cut : p <+: d) (read : start.run p = .ok r) (sound : r.Sound)
    (arrived : Arrived p path w) : r.Kept path w := by
  obtain ⟨before, text, after, m, rfl, first, free, rfl, value, c, next, marker⟩ := arrived
  obtain ⟨more, rfl⟩ : ∃ more, after = c :: more := by
    cases after with
    | nil => cases next
    | cons d more =>
      cases next
      exact ⟨more, rfl⟩
  obtain ⟨mode, base⟩ := m
  obtain ⟨k, parts, rest⟩ := runSplits read
  rw [runAppend first] at parts
  have front : start.run (before ++ text) = .ok k := (runAppend first text).trans parts
  have earlier := soundEarlier front rest sound
  have waiting := slottedWants (slottedRun first (soundEarlier first parts earlier)) free
  obtain ⟨i, ended, same⟩ := runAbove free (Reader.accepted.mp value) parts
  have here : Kept (deliver w base) (pathOf base) w := by
    have delivered : Kept (deliver w base) (pathOf base ++ []) w := keptAt waiting rfl
    rwa [List.append_nil] at delivered
  obtain ⟨mode, s⟩ := i
  -- A number is complete only at the character behind it, every other value at its last.
  rcases endCases ended with done | ⟨n, x, number, valued, done⟩
  · simp only at done
    subst done
    subst same
    exact keptRun distinct cut front rest sound here
  · simp only at number done
    subst number
    obtain ⟨rfl, rfl⟩ : s = [] ∧ w = .number x := by
      cases s with
      | nil =>
        cases done
        exact ⟨rfl, rfl⟩
      | cons frame s => cases frame <;> cases done
    subst same
    obtain ⟨l, taken, move, later⟩ := runCons rest
    have longer : start.run (before ++ text ++ [c]) = .ok l := (runAppend front [c]).trans taken
    have kept : l.Kept (pathOf base) (.number x) := by
      have move : Move ⟨.number n, base⟩ c l := move
      cases move with
      | space free | openObject free | openList free | openText free | openWord free
      | openNumber free | openKey free => cases free
      | number digits => exact (markerNoNumber marker digits).elim
      | past _ found move =>
        cases found.symm.trans valued
        exact keptMove move (slottedDeliver (waitingRest waiting) _) (shapedDeliver _ _)
          (newKeyDeliver _ _) here
    exact keptRun distinct (by simpa using cut) longer later sound kept

theorem keptShown {r : Reader} {path : List Place} {v w : Json} (kept : r.Kept path w)
    (slotted : r.Slotted) (shaped : r.Shaped) (fresh : r.newKey = true)
    (free : ∀ held e members s, r = ⟨.text true held e, .record members :: s⟩ →
      ¬(pathOf s ++ [.key (String.ofList held.reverse)] <+: path))
    (shown : r.shown? = some v) : at? path v = some w := by
  obtain ⟨mode, s⟩ := r
  cases mode with
  | value =>
    cases s with
    | nil => cases shown
    | cons frame s =>
      cases shown
      exact closeFramesHolds (waitingRest slotted) kept _
  | firstItem =>
    obtain ⟨below, ⟨⟩⟩ := shaped
    cases shown
    exact closeFramesKeeps (waitingRest slotted) kept (listHolds [])
  | firstKey =>
    obtain ⟨below, ⟨⟩⟩ := shaped
    cases shown
    exact closeFramesKeeps slotted kept (recordHolds [])
  | item =>
    obtain ⟨items, below, ⟨⟩⟩ := shaped
    cases shown
    exact closeFramesKeeps (waitingRest slotted) kept (listHolds items)
  | key =>
    obtain ⟨members, below, ⟨⟩⟩ := shaped
    cases shown
    exact closeFramesKeeps slotted kept (recordHolds members)
  | next =>
    rcases shaped with ⟨items, below, ⟨⟩⟩ | ⟨members, below, ⟨⟩⟩
    · cases shown
      exact closeFramesKeeps slotted kept (listHolds items)
    · cases shown
      exact closeFramesKeeps slotted kept (recordHolds members)
  | colon name =>
    obtain ⟨members, below, ⟨⟩⟩ := shaped
    cases shown
    have waiting : Waiting (Frame.member members name :: below).tail := slotted
    exact closeFramesHolds waiting
      (holdsAwaiting kept (.inl (Option.isNone_iff_eq_none.mp fresh))) _
  | text forKey held e =>
    cases waits : e.waiting? with
    | some h => simp [shown?, waits] at shown
    | none =>
      cases forKey with
      | true =>
        obtain ⟨members, below, ⟨⟩⟩ := shaped
        simp only [shown?, waits, Option.isSome_none, Bool.false_eq_true, if_false, if_true,
          awaiting, Option.some.injEq] at shown
        subst shown
        have waiting : Waiting
            (Frame.member members (String.ofList held.reverse) :: below).tail := slotted
        exact closeFramesHolds waiting
          (holdsAwaiting kept (.inr (free held e members below rfl))) _
      | false =>
        simp only [shown?, waits, Option.isSome_none, Bool.false_eq_true, if_false,
          Option.some.injEq] at shown
        subst shown
        exact closeFramesHolds (waitingRest slotted) kept _
  | word left u =>
    cases shown
    exact closeFramesHolds (waitingRest slotted) kept _
  | number n =>
    obtain ⟨x, -, rfl⟩ := Option.map_eq_some_iff.mp shown
    exact closeFramesHolds (waitingRest slotted) kept _
  | done u =>
    cases shown
    exact kept

theorem blanksInText {cs blanks : List Char} {k : Reader} {forKey : Bool} {held : List Char}
    {e : Escape} {s : List Frame} (read : start.run cs = .ok k)
    (rest : k.run blanks = .ok ⟨.text forKey held e, s⟩)
    (separate : ∀ c ∈ blanks, isSeparator c = true) :
    ∃ before f, k = ⟨.text forKey before f, s⟩ := by
  induction blanks generalizing cs k with
  | nil =>
    cases rest
    exact ⟨held, e, rfl⟩
  | cons c blanks ih =>
    obtain ⟨m, first, move, later⟩ := runCons rest
    have longer : start.run (cs ++ [c]) = .ok m := (runAppend read [c]).trans first
    have separates := separate c List.mem_cons_self
    obtain ⟨before, f, rfl⟩ := ih longer later fun d member =>
      separate d (List.mem_cons_of_mem c member)
    rcases moveIntoText move rfl with ⟨-, rfl⟩ | ⟨old, g, rfl, -⟩
    · cases separates
    · exact ⟨old, g, rfl⟩

theorem spellsGrow {held next : List Char} {e f : Escape} {c : Char}
    (spelled : Spells held e c next f) : ∃ more, next = more ++ held := by
  cases spelled with
  | plain | letter | scalar | pair => exact ⟨[_], rfl⟩
  | slash | unit | digit | lost | lead | pairSlash | pairLetter => exact ⟨[], rfl⟩

theorem textFinishes {held : List Char} {e : Escape} {s : List Frame} {rest : List Char} {v : Json}
    (yields : Yields ⟨.text false held e, s⟩ rest v) : ∃ mid tail more, rest = mid ++ tail ∧
      run ⟨.text false held e, s⟩ mid =
        .ok (deliver (.string (String.ofList (more ++ held).reverse)) s) ∧
      (deliver (.string (String.ofList (more ++ held).reverse)) s).Yields tail v := by
  induction rest generalizing held e with
  | nil =>
    obtain ⟨k, read, ended⟩ := yields
    cases read
    cases ended
  | cons c rest ih =>
    obtain ⟨m, first, later⟩ := yieldsSplits
      (show Yields ⟨.text false held e, s⟩ ([c] ++ rest) v from yields)
    have move := stepMove (runOne.mp first)
    cases move with
    | space free | openObject free | openList free | openText free | openWord free
    | openNumber free | openKey free => cases free
    | closeText => exact ⟨['"'], rest, [], rfl, first, later⟩
    | spell spelled =>
      obtain ⟨grown, rfl⟩ := spellsGrow spelled
      obtain ⟨mid, tail, more, rfl, read, finished⟩ := ih later
      rw [← List.append_assoc] at read finished
      exact ⟨c :: mid, tail, more ++ grown, rfl, (runAppend first mid).trans read, finished⟩

theorem endSound {r : Reader} {v : Json} (ended : r.atEnd = .ok v) : r.Sound := by
  obtain ⟨mode, s⟩ := r
  rcases endCases ended with same | ⟨n, x, same, -, -⟩
  · simp only at same
    subst same
    exact ⟨nofun, nofun⟩
  · simp only at same
    subst same
    exact ⟨nofun, nofun⟩

theorem keptWhole {front rest : List Char} {r : Reader} {path : List Place} {v w : Json}
    (distinct : DistinctKeys (front ++ rest)) (read : start.run front = .ok r)
    (yields : r.Yields rest v) (kept : r.Kept path w) : at? path v = some w := by
  obtain ⟨last, later, ended⟩ := yields
  exact keptEnd (keptRun distinct (List.prefix_rfl) read later (endSound ended) kept) ended

section
variable {p lead blanks after : List Char} {k r : Reader} {path : List Place} {u v w : Json}

theorem arrivedShown (trimmed : Trimmed p lead blanks k r) (distinct : DistinctKeys (p ++ after))
    (shown : k.shown? = some u) (kept : r.Kept path w)
    (free : ∀ key, CutKey p key → ¬key <+: path) : at? path u = some w := by
  have sound := liveSound trimmed.whole trimmed.live
  have earlier := soundEarlier trimmed.kept trimmed.rest sound
  -- Blanks behind the trimmed text belong to the string in a string, and mean nothing elsewhere.
  by_cases inside : r.inText = true
  · obtain ⟨mode, s⟩ := r
    cases mode with
    | text forKey held e =>
      obtain ⟨before, f, rfl⟩ := blanksInText trimmed.kept trimmed.rest trimmed.separate
      have keptEarlier : Kept ⟨.text forKey before f, s⟩ path w := kept
      refine keptShown keptEarlier (slottedRun trimmed.kept earlier)
        (shapedRun trimmed.kept earlier) rfl (fun held e members below same => ?_) shown
      exact free _ ⟨held, e, members, below, by rw [← same]; exact trimmed.kept, rfl⟩
    | _ => cases inside
  · have outside := eq_false_of_ne_true inside
    have same := (separatorsRun trimmed.kept trimmed.rest trimmed.separate outside).2
    have fresh := distinct p r (List.prefix_append p after) trimmed.whole
    refine keptShown kept (slottedRun trimmed.whole sound) (shapedRun trimmed.whole sound) fresh
      (fun held e members below same => ?_) (same.trans shown)
    subst same
    cases outside

theorem cutKeyShown (trimmed : Trimmed p lead blanks k r) (shown : k.shown? = some u)
    (key : CutKey p path) : at? path u = some .null := by
  obtain ⟨held, e, members, s, read, rfl⟩ := key
  cases read.symm.trans trimmed.kept
  have sound := soundEarlier trimmed.kept trimmed.rest (liveSound trimmed.whole trimmed.live)
  have slotted : Waiting s := slottedRun trimmed.kept sound
  cases waits : e.waiting? with
  | some h => simp [shown?, waits] at shown
  | none =>
    simp only [shown?, waits, Option.isSome_none, Bool.false_eq_true, if_false, if_true,
      awaiting, Option.some.injEq] at shown
    subst shown
    have waiting : Waiting (Frame.member members (String.ofList held.reverse) :: s) :=
      waitingCons (by simp) slotted
    exact closeFramesAt waiting .null

theorem cutTextShown (trimmed : Trimmed p lead blanks k r) (distinct : DistinctKeys (p ++ after))
    (yields : r.Yields after v) (shown : k.shown? = some u) (text : CutText p path) :
    ∃ part full, at? path u = some (.string part) ∧ at? path v = some (.string full) ∧
      part.toList <+: full.toList := by
  obtain ⟨held, e, s, read, rfl⟩ := text
  cases read.symm.trans trimmed.whole
  have sound := soundEarlier trimmed.kept trimmed.rest (liveSound trimmed.whole trimmed.live)
  obtain ⟨before, f, rfl⟩ := blanksInText trimmed.kept trimmed.rest trimmed.separate
  have slotted : Waiting s := slottedRun trimmed.kept sound
  have later : Yields ⟨.text false before f, s⟩ (blanks ++ after) v :=
    (yieldsAfter trimmed.rest after v).mpr yields
  obtain ⟨mid, tail, more, rest, closed, finished⟩ := textFinishes later
  have kept : Kept (deliver (.string (String.ofList (more ++ before).reverse)) s) (pathOf s ++ [])
      (.string (String.ofList (more ++ before).reverse)) := keptAt slotted rfl
  rw [List.append_nil] at kept
  have ended : start.run (lead ++ Text.trimChars p ++ mid) =
      .ok (deliver (.string (String.ofList (more ++ before).reverse)) s) :=
    (runAppend trimmed.front mid).trans closed
  have whole : p ++ after = lead ++ Text.trimChars p ++ mid ++ tail := by
    conv_lhs => rw [trimmed.split]
    rw [List.append_assoc, rest, List.append_assoc, List.append_assoc, List.append_assoc]
  rw [whole] at distinct
  refine ⟨String.ofList before.reverse, _, ?_, keptWhole distinct ended finished kept, ?_⟩
  · cases waits : f.waiting? with
    | some h => simp [shown?, waits] at shown
    | none =>
      simp only [shown?, waits, Option.isSome_none, Bool.false_eq_true, if_false,
        Option.some.injEq] at shown
      subst shown
      exact closeFramesAt slotted _
  · rw [String.toList_ofList, String.toList_ofList, List.reverse_append]
    exact List.prefix_append _ _

end

theorem previewFaithful {d p : String} {v : Json} (accepted : ofText? d = some v)
    (distinct : DistinctKeys d.toList) (cut : p.toList <+: d.toList)
    (shown : (preview p).quality ≠ .raw) : Faithful p.toList (preview p).value v := by
  obtain ⟨lead, blanks, k, r, trimmed⟩ := trimmedRun (textAccepted.mp accepted) cut
  obtain ⟨after, whole⟩ := cut
  have yields := textAccepted.mp accepted
  rw [← whole, yieldsAfter trimmed.whole] at yields
  rw [← whole] at distinct
  -- The reader's state after `p` is what both share: the preview ends there, the document goes on.
  obtain ⟨quality, values⟩ := previewShows trimmed
  obtain ⟨u, found⟩ := Option.ne_none_iff_exists'.mp fun lacking => shown (quality.mpr lacking)
  rw [values u found]
  have kept {path : List Place} {w : Json} (arrived : Arrived p.toList path w) : r.Kept path w :=
    arrivedKept distinct (List.prefix_append _ after) trimmed.whole
      (liveSound trimmed.whole trimmed.live) arrived
  exact {
    arrived := fun path w arrived => keptWhole distinct trimmed.whole yields (kept arrived)
    kept := fun path w arrived free => arrivedShown trimmed distinct found (kept arrived) free
    key := fun path key => cutKeyShown trimmed found key
    text := fun path text => cutTextShown trimmed distinct yields found text }

theorem memberShown : at? [.key "a"] (preview "\x7b\"a\":1,\"b\":\"x").value =
    some (.number (.natural 1)) :=
  (previewFaithful (d := "\x7b\"a\":1,\"b\":\"xy\"\x7d")
    (v := .object [("a", .number (.natural 1)), ("b", .string "xy")]) (by rfl) (by decide)
    (by decide) (by decide)).kept [.key "a"] (.number (.natural 1))
    ⟨"\x7b\"a\":".toList, "1".toList, ",\"b\":\"x".toList, ⟨.value, [.member [] "a"]⟩, by rfl,
      by rfl, rfl, by rfl, by rfl, ',', rfl, .inl rfl⟩
    (by
      rintro key ⟨held, e, members, s, read, -⟩
      cases read)

theorem memberHidden : ¬∀ (d p : String) (v : Json), ofText? d = some v → DistinctKeys d.toList →
    p.toList <+: d.toList → (preview p).quality ≠ .raw → ∀ path w, Arrived p.toList path w →
    at? path (preview p).value = at? path v := by
  intro claim
  have same := claim "\x7b\"a\":1,\"ab\":2\x7d" "\x7b\"a\":1,\"a"
    (.object [("a", .number (.natural 1)), ("ab", .number (.natural 2))]) (by rfl) (by decide)
    (by decide) (by decide) [.key "a"] (.number (.natural 1))
    ⟨"\x7b\"a\":".toList, "1".toList, ",\"a".toList, ⟨.value, [.member [] "a"]⟩, by rfl, by rfl,
      rfl, by rfl, by rfl, ',', rfl, .inl rfl⟩
  have hidden : at? [.key "a"] (preview "\x7b\"a\":1,\"a").value = some .null := by rfl
  cases hidden.symm.trans same

end ChaincodeConsole.Json
