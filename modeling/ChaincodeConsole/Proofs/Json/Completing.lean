import ChaincodeConsole.Proofs.Json.Escapes

/-! Completing a document that breaks off gives the value of what the reader has so far, each
open container closed; a key gets null, and a number the digit it lacks. -/
namespace ChaincodeConsole.Json

theorem quietRest {c : Char} (rev : List Char) (quiet : c ∈ ['"', '{', '[', '}', ']']) :
    literalRest (c :: rev) = [] := by
  simp only [List.mem_cons, List.not_mem_nil, or_false] at quiet
  rcases quiet with rfl | rfl | rfl | rfl | rfl <;> rw [literalRestPlain rfl] <;> rfl

theorem wordsLetters : ∀ w ∈ words, ∀ c ∈ w, isLetter c = true := by simp [words, isLetter]

theorem wordRestTakes : ∀ w ∈ words, ∀ k < w.length, 0 < k →
    wordRest? (w.take k) = some (w.drop k) := by decide

theorem wordRestWhole : ∀ w ∈ words, wordRest? w = none := by decide

theorem takesLetters {seen before : List Char} (letters : ∀ c ∈ seen, isLetter c = true)
    (plain : ∀ c ∈ before.head?, isLetter c = false) :
    (seen ++ before).takeWhile isLetter = seen := by
  rw [List.takeWhile_append_of_pos letters]
  cases before with
  | nil => simp
  | cons c before => simp [plain c rfl]

theorem wordRestTrail {seen before left : List Char} (known : seen.reverse ++ left ∈ words)
    (begun : seen ≠ []) (going : left ≠ []) (plain : ∀ c ∈ before.head?, isLetter c = false) :
    literalRest (seen ++ before) = left := by
  have letters : ∀ c ∈ seen, isLetter c = true := fun c member =>
    wordsLetters _ known c (List.mem_append_left _ (List.mem_reverse.mpr member))
  have rest := wordRestTakes _ known seen.reverse.length (by
    rw [List.length_append]
    exact Nat.lt_add_of_pos_right (List.length_pos_iff.mpr going)) (by
    rw [List.length_reverse]
    exact List.length_pos_iff.mpr begun)
  rw [List.take_left, List.drop_left] at rest
  simp only [literalRest, takesLetters letters plain, rest]

theorem wholeRest {w before : List Char} (known : w ∈ words)
    (plain : ∀ c ∈ before.head?, isLetter c = false) : literalRest (w.reverse ++ before) = [] := by
  have letters : ∀ c ∈ w.reverse, isLetter c = true := fun c member =>
    wordsLetters _ known c (List.mem_reverse.mp member)
  simp only [literalRest, takesLetters letters plain, List.reverse_reverse,
    wordRestWhole _ known]
  simp only [words, List.mem_cons, List.not_mem_nil, or_false] at known
  rcases known with rfl | rfl | rfl <;> rfl

namespace Reader

def awaiting (name : String) : List Frame → List Frame
  | .record members :: s => .member members name :: s
  | s => s

def shown? (r : Reader) : Option Json :=
  match r.mode with
  | .value => if r.stack.isEmpty then none else some (closeFrames .null r.stack)
  | .firstItem => some (closeFrames (.array []) r.stack.tail)
  | .firstKey => some (closeFrames (.object []) r.stack.tail)
  | .item | .key | .next =>
    match r.stack with
    | .list items :: s => some (closeFrames (.array items.reverse) s)
    | .record members :: s => some (closeFrames (.object members) s)
    | _ => none
  | .colon name => some (closeFrames .null (awaiting name r.stack))
  | .text forKey held escape =>
    if escape.waiting?.isSome then none
    else if forKey then
      some (closeFrames .null (awaiting (String.ofList held.reverse) r.stack))
    else some (closeFrames (.string (String.ofList held.reverse)) r.stack)
  | .word _ value => some (closeFrames value r.stack)
  | .number n => n.shown?.map fun x => closeFrames (.number x) r.stack
  | .done value => some value

theorem shownDeliver (v : Json) (s : List Frame) :
    (deliver v s).shown? = some (closeFrames v s) := by
  unfold deliver
  split <;> rfl

theorem shownNumber {n : Numeral} {x : Number} (value : n.value? = some (.ok x)) (s : List Frame) :
    shown? ⟨.number n, s⟩ = some (closeFrames (.number x) s) := by
  have shown : n.shown? = some x := by
    rw [Numeral.shown?, Numeral.finishedComplete value, value]
    rfl
  simp only [shown?, shown, Option.map_some]

def Shaped (r : Reader) : Prop :=
  match r.mode with
  | .key | .colon _ | .text true _ _ => ∃ members s, r.stack = .record members :: s
  | .firstKey => ∃ s, r.stack = .record [] :: s
  | .firstItem => ∃ s, r.stack = .list [] :: s
  | .item => ∃ items s, r.stack = .list items :: s
  | .next => (∃ items s, r.stack = .list items :: s) ∨ ∃ members s, r.stack = .record members :: s
  | _ => True

theorem shapedDeliver (v : Json) (s : List Frame) : (deliver v s).Shaped := by
  cases s with
  | nil => trivial
  | cons frame s =>
    cases frame with
    | list items => exact .inl ⟨_, _, rfl⟩
    | record members => exact .inr ⟨_, _, rfl⟩
    | member members key => exact .inr ⟨_, _, rfl⟩

theorem shapedMove {r next : Reader} {c : Char} (move : Move r c next) (shaped : r.Shaped) :
    next.Shaped := by
  induction move with
  | space => exact shaped
  | openObject | openList => exact ⟨_, rfl⟩
  | nextItem | nextKey => exact ⟨_, _, rfl⟩
  | @openKey m s free =>
    cases m with
    | firstKey => exact ⟨[], shaped⟩
    | key => exact shaped
    | _ => cases free
  | emptyList | emptyObject | closeList | closeObject | wordEnd | wordNone =>
    exact shapedDeliver _ _
  | @closeText forKey held s =>
    cases forKey with
    | true => exact shaped
    | false => exact shapedDeliver _ _
  | @spell forKey =>
    cases forKey with
    | true => exact shaped
    | false => trivial
  | past _ _ _ ih => exact ih (shapedDeliver _ _)
  | _ => trivial

/-- The last characters of the text, latest first, where a value may begin and in a literal or
a number. -/
def Trail (rev : List Char) : Mode → Prop
  | .value | .firstItem | .item => ∀ c ∈ rev.head?, isLetter c = false
  | .word left _ => ∃ seen before, rev = seen ++ before ∧ seen.reverse ++ left ∈ words ∧
      seen ≠ [] ∧ ∀ c ∈ before.head?, isLetter c = false
  | .number n => ∃ token before, rev = token ++ before ∧ Numeral.Reads token n
  | _ => True

theorem trailDeliver (rev : List Char) (v : Json) (s : List Frame) :
    Trail rev (deliver v s).mode := by
  rcases deliverMode v s with same | same <;> rw [same] <;> trivial

theorem spaceNoLetter {c : Char} (space : isSpace c = true) : isLetter c = false := by
  simp only [isSpace, Bool.or_eq_true, beq_iff_eq] at space
  rcases space with ((rfl | rfl) | rfl) | rfl <;> rfl

theorem trailMove {rev : List Char} {r next : Reader} {c : Char} (move : Move r c next)
    (trail : Trail rev r.mode) : Trail (c :: rev) next.mode := by
  have head {d : Char} (plain : isLetter d = false) :
      ∀ e ∈ (d :: rev).head?, isLetter e = false := by
    rintro e ⟨⟩
    exact plain
  induction move with
  | @space m s c free blank =>
    have plain := spaceNoLetter blank
    cases m with
    | value | firstItem | item => exact head plain
    | text | word | number => cases free
    | _ => trivial
  | openList | colon | nextItem => exact head rfl
  | @openWord m s c left v free known =>
    have before : ∀ d ∈ rev.head?, isLetter d = false := by
      cases m <;> first | exact trail | cases free
    refine ⟨[c], rev, rfl, ?_, List.cons_ne_nil c [], before⟩
    simp only [literals, List.mem_cons, Prod.mk.injEq, List.not_mem_nil, or_false] at known
    rcases known with ⟨rfl, rfl, -⟩ | ⟨rfl, rfl, -⟩ | ⟨rfl, rfl, -⟩ <;> decide
  | openNumber free opened => exact ⟨_, rev, rfl, .first opened⟩
  | @word c left v s more =>
    obtain ⟨seen, before, rfl, known, going, plain⟩ := trail
    exact ⟨c :: seen, before, rfl, by simpa using known, List.cons_ne_nil c seen, plain⟩
  | number more =>
    obtain ⟨token, before, rfl, read⟩ := trail
    exact ⟨_ :: token, before, rfl, .more read more⟩
  | emptyList | emptyObject | closeList | closeObject | wordEnd | wordNone =>
    exact trailDeliver _ _ _
  | @closeText forKey held s =>
    cases forKey with
    | true => trivial
    | false => exact trailDeliver _ _ _
  | past _ _ _ ih => exact ih (trailDeliver _ _ _)
  | _ => trivial

theorem shapedRun {cs : List Char} {k : Reader} (read : start.run cs = .ok k) (sound : k.Sound) :
    k.Shaped :=
  soundRun (P := fun _ r => r.Shaped) trivial
    (fun _ _ _ _ shaped _ move _ => shapedMove move shaped) read sound

theorem trailRun {cs : List Char} {k : Reader} (read : start.run cs = .ok k) (sound : k.Sound) :
    Trail cs.reverse k.mode :=
  soundRun (P := fun rev r => Trail rev r.mode) nofun
    (fun _ _ _ _ trail _ move _ => trailMove move trail) read sound

def awaits (r : Reader) : Bool :=
  match r.mode with
  | .colon _ => true
  | _ => false

/-- What is missing at the end of a text makes it a document with the value of what has been
read. -/
def Ready (rev : List Char) (r : Reader) : Prop :=
  ∀ v, r.Yields (valueRest r.awaits rev ++ r.stack.map closer) v ↔ r.shown? = some v

theorem readyBy {rev : List Char} {r : Reader} {w : Json}
    (yields : r.Yields (valueRest r.awaits rev ++ r.stack.map closer) w)
    (shown : r.shown? = some w) : Ready rev r := by
  intro v
  rw [shown, Option.some.injEq]
  constructor
  · exact yieldsUnique yields
  · rintro rfl
    exact yields

theorem readyDelivered {rev : List Char} {c : Char} (colon : c ≠ ':')
    (whole : literalRest (c :: rev) = []) (v : Json) (s : List Frame) :
    Ready (c :: rev) (deliver v s) := by
  have awaits : (deliver v s).awaits = false := by
    unfold Reader.awaits
    rcases deliverMode v s with same | same <;> rw [same]
  have stack : (deliver v s).stack.map closer = s.map closer := by
    unfold deliver
    split <;> rfl
  refine readyBy ?_ (shownDeliver v s)
  rw [awaits, stack, valueRest, if_neg Bool.false_ne_true, if_neg (by simpa using colon), whole]
  exact deliverYields v s

theorem wordRun {left : List Char} (going : left ≠ []) (v : Json) (s : List Frame) :
    run ⟨.word left v, s⟩ left = .ok (deliver v s) := by
  induction left with
  | nil => exact absurd rfl going
  | cons c left ih =>
    cases left with
    | nil => simp [run, step, plainStep]
    | cons d left =>
      have first : step ⟨.word (c :: d :: left) v, s⟩ c = .ok ⟨.word (d :: left) v, s⟩ := by
        simp [step, plainStep]
      simpa only [run, first] using ih (List.cons_ne_nil d left)

theorem readyWord {rev left : List Char} {v : Json} {s : List Frame} {c : Char}
    (letters : Letters ⟨.word left v, s⟩) (colon : c ≠ ':')
    (rest : literalRest (c :: rev) = left) : Ready (c :: rev) ⟨.word left v, s⟩ := by
  have going := (letters left v rfl).1
  refine readyBy ?_ rfl
  rw [Reader.awaits, valueRest, if_neg Bool.false_ne_true, if_neg (by simpa using colon), rest]
  exact (yieldsAfter (wordRun going v s) _ _).mpr (deliverYields v s)

theorem numberYields {n : Numeral} {result : Except Fault Number}
    (complete : n.value? = some result) (s : List Frame) (v : Json) :
    Yields ⟨.number n, s⟩ (s.map closer) v ↔
      result.toOption.map (fun x => closeFrames (.number x) s) = some v := by
  cases s with
  | nil =>
    cases result with
    | error f => simp [Yields, run, atEnd, complete, Except.toOption]
    | ok x => simp [Yields, run, atEnd, complete, Except.toOption, plainEnd, deliver, closeFrames]
  | cons frame s =>
    have past : n.step (closer frame) = .past := by
      cases frame <;> exact Numeral.completeOver complete rfl (by simp [closer]) rfl
    cases result with
    | error f => simp [Yields, run, step, past, complete, Except.toOption]
    | ok x =>
      have same : step ⟨.number n, frame :: s⟩ (closer frame) =
          step (deliver (.number x) (frame :: s)) (closer frame) := by
        simp only [step, past, complete]
        cases frame <;> rfl
      have yields := deliverYields (.number x) (frame :: s)
      simp only [Except.toOption, Option.map_some, Option.some.injEq]
      constructor
      · intro read
        refine yieldsUnique yields ?_
        simpa only [Yields, List.map_cons, run, same] using read
      · rintro rfl
        simpa only [Yields, List.map_cons, run, same] using yields

theorem readyNumber {rev : List Char} {n : Numeral} {s : List Frame} {c : Char} (colon : c ≠ ':')
    (rest : literalRest (c :: rev) = n.missing) : Ready (c :: rev) ⟨.number n, s⟩ := by
  intro v
  rw [Reader.awaits, valueRest, if_neg Bool.false_ne_true, if_neg (by simpa using colon), rest,
    Numeral.missing]
  change _ ↔ n.shown?.map (fun x => closeFrames (.number x) s) = some v
  rw [Numeral.shown?]
  cases complete : n.value? with
  | some result =>
    rw [Numeral.finishedComplete complete, complete]
    exact numberYields complete s v
  | none =>
    obtain ⟨more, result, finished⟩ := Numeral.brokenStep complete
    have first : step ⟨.number n, s⟩ '0' = .ok ⟨.number n.finished, s⟩ := by simp [step, more]
    rw [finished]
    exact (yieldsStep first).trans (numberYields finished s v)

theorem readyColon {rev : List Char} {name : String} {members : List (String × Json)}
    {s : List Frame} : Ready rev ⟨.colon name, .record members :: s⟩ :=
  readyBy (deliverYields .null (.member members name :: s)) rfl

theorem readyValue {rev : List Char} {frame : Frame} {s : List Frame} :
    Ready (':' :: rev) ⟨.value, frame :: s⟩ :=
  readyBy (deliverYields .null (frame :: s)) rfl

def isSeparator (c : Char) : Bool := Text.isBlank c || c == ','

theorem spaceBlank {c : Char} (space : isSpace c = true) : Text.isBlank c = true := by
  simp only [isSpace, Bool.or_eq_true, beq_iff_eq] at space
  rcases space with ((rfl | rfl) | rfl) | rfl <;> rfl

theorem readyMove {rev : List Char} {r next : Reader} {c : Char} (move : Move r c next)
    (trail : Trail rev r.mode) (shaped : next.Shaped) (letters : r.Letters)
    (kept : isSeparator c = false) (outside : next.inText = false) : Ready (c :: rev) next := by
  have after := trailMove move trail
  have last := lettersAfter move letters
  have noColon {d : Char} (token : inToken d = true) : d ≠ ':' := by
    rintro rfl
    cases token
  induction move with
  | space _ blank =>
    rw [isSeparator, spaceBlank blank, Bool.true_or] at kept
    cases kept
  | @openObject m s =>
    refine readyBy ?_ rfl
    rw [Reader.awaits, valueRest, if_neg Bool.false_ne_true, if_neg (by simp),
      quietRest rev (by decide)]
    exact (yieldsStep rfl).mpr (deliverYields (.object []) s)
  | @openList m s =>
    refine readyBy ?_ rfl
    rw [Reader.awaits, valueRest, if_neg Bool.false_ne_true, if_neg (by simp),
      quietRest rev (by decide)]
    exact (yieldsStep rfl).mpr (deliverYields (.array []) s)
  | openText | openKey | spell => cases outside
  | openWord _ known =>
    obtain ⟨seen, before, same, word, begun, plain⟩ := after
    refine readyWord last (noColon (literalToken known)) ?_
    rw [same]
    exact wordRestTrail word begun (last _ _ rfl).1 plain
  | openNumber _ opened =>
    obtain ⟨token, before, same, read⟩ := after
    refine readyNumber (noColon (openToken opened)) ?_
    rw [same]
    exact Numeral.missingEnds (Numeral.readsEnds read) before
  | emptyList | closeList => exact readyDelivered (by decide) (quietRest _ (by decide)) _ _
  | emptyObject | closeObject => exact readyDelivered (by decide) (quietRest _ (by decide)) _ _
  | colon => exact readyValue
  | nextItem | nextKey => cases kept
  | @closeText forKey held s =>
    cases forKey with
    | true =>
      obtain ⟨members, below, same⟩ := shaped
      have same : s = .record members :: below := same
      subst same
      exact readyColon
    | false => exact readyDelivered (by decide) (quietRest _ (by decide)) _ _
  | word more =>
    obtain ⟨seen, before, same, word, begun, plain⟩ := after
    refine readyWord last (noColon (letterToken ((letters _ _ rfl).2 _ List.mem_cons_self))) ?_
    rw [same]
    exact wordRestTrail word begun more plain
  | @wordEnd c v s =>
    obtain ⟨seen, before, rfl, word, begun, plain⟩ := trail
    have letter := (letters _ _ rfl).2 c List.mem_cons_self
    have whole := wholeRest word plain
    rw [List.reverse_append, List.reverse_reverse] at whole
    exact readyDelivered (noColon (letterToken letter)) whole v s
  | wordNone => exact absurd rfl (letters _ _ rfl).1
  | number more =>
    obtain ⟨token, before, same, read⟩ := after
    refine readyNumber (noColon (moreToken more)) ?_
    rw [same]
    exact Numeral.missingEnds (Numeral.readsEnds read) before
  | past _ _ _ ih =>
    exact ih (trailDeliver _ _ _) shaped (lettersDeliver _ _) kept outside after last

theorem notSeparator {c : Char} (low : 33 ≤ c.toNat) (high : c.toNat ≤ 126) (comma : c ≠ ',') :
    isSeparator c = false := by
  simp only [isSeparator, Text.isBlank, Bool.or_eq_false_iff, Bool.and_eq_false_iff,
    decide_eq_false_iff_not, beq_eq_false_iff_ne]
  refine ⟨?_, comma⟩
  omega

theorem tokenKept {c : Char} (token : inToken c = true) : isSeparator c = false := by
  have other : c ≠ ',' := by
    rintro rfl
    cases token
  simp only [inToken, Char.isDigit, isLetter, Char.le_def, ge_iff_le, UInt32.le_iff_toNat_le,
    Bool.or_eq_true, Bool.and_eq_true, decide_eq_true_eq, beq_iff_eq] at token
  rcases token with (((digit | letter) | rfl) | rfl) | rfl
  · have range : 48 ≤ c.toNat ∧ c.toNat ≤ 57 := digit
    exact notSeparator (by omega) (by omega) other
  · have range : (97 ≤ c.toNat ∧ c.toNat ≤ 122) ∨ (65 ≤ c.toNat ∧ c.toNat ≤ 90) := letter
    exact notSeparator (by omega) (by omega) other
  · rfl
  · rfl
  · rfl

theorem separatorMove {r next : Reader} {c : Char} (move : Move r c next)
    (separates : isSeparator c = true) (letters : r.Letters) (outside : r.inText = false) :
    next.inText = false ∧ next.shown? = r.shown? := by
  induction move with
  | space => exact ⟨outside, rfl⟩
  | nextItem | nextKey => exact ⟨rfl, rfl⟩
  | openWord _ known => cases (tokenKept (literalToken known)).symm.trans separates
  | openNumber _ opened => cases (tokenKept (openToken opened)).symm.trans separates
  | word | wordEnd =>
    cases (tokenKept (letterToken ((letters _ _ rfl).2 _ List.mem_cons_self))).symm.trans separates
  | wordNone => exact absurd rfl (letters _ _ rfl).1
  | number more => cases (tokenKept (moreToken more)).symm.trans separates
  | spell | closeText => cases outside
  | @past n x c s r _ value _ ih =>
    obtain ⟨still, same⟩ := ih separates (lettersDeliver _ _) (outsideDeliver _ s)
    rw [shownDeliver, ← shownNumber value] at same
    exact ⟨still, same⟩
  | _ => cases separates

theorem separatorInText {r next : Reader} {c : Char} (move : Move r c next)
    (separates : isSeparator c = true) (inside : r.inText = true) : next.inText = true := by
  obtain ⟨mode, s⟩ := r
  cases mode with
  | text forKey held escape =>
    cases move with
    | spell => rfl
    | space free | openWord free | openNumber free => cases free
    | _ => cases separates
  | _ => cases inside

theorem separatorsRun {cs seps : List Char} {r k : Reader} (read : start.run cs = .ok r)
    (ok : r.run seps = .ok k) (separate : ∀ c ∈ seps, isSeparator c = true)
    (outside : k.inText = false) : r.inText = false ∧ k.shown? = r.shown? := by
  induction seps generalizing cs r with
  | nil =>
    cases ok
    exact ⟨outside, rfl⟩
  | cons c seps ih =>
    obtain ⟨m, first, move, later⟩ := runCons ok
    have longer : start.run (cs ++ [c]) = .ok m := (runAppend read [c]).trans first
    have separates := separate c List.mem_cons_self
    obtain ⟨out, same⟩ := ih longer later fun d member =>
      separate d (List.mem_cons_of_mem c member)
    -- A separator closes no string, so the reader was outside of strings before it too.
    have before : r.inText = false := by
      by_contra inside
      cases out.symm.trans (separatorInText move separates (eq_true_of_ne_false inside))
    exact ⟨before, same.trans (separatorMove move separates (lettersRun read) before).2⟩

end Reader

def finish (cs : List Char) : List Char :=
  cs ++ valueRest (Scan.ofChars cs).awaitsColon cs.reverse ++ (Scan.ofChars cs).closers

theorem finishBy {kept : List Char} {s : Scan}
    (same : s.stack = (Scan.ofChars kept.reverse).stack) :
    kept.reverse ++ valueRest s.awaitsColon kept ++ s.closers = finish kept.reverse := by
  simp only [finish, Scan.awaitsColon, Scan.closers, same, List.reverse_reverse]

open Reader

theorem unquotedStays {s : Scan} {cs : List Char} (unquoted : ∀ c ∈ cs, c ≠ '"') :
    (cs.foldl Scan.step s).inString = s.inString := by
  induction cs generalizing s with
  | nil => rfl
  | cons c cs ih =>
    obtain ⟨first, rest⟩ := List.forall_mem_cons.mp unquoted
    have kept : (s.step c).inString = s.inString := by
      unfold Scan.step
      split
      · split
        · rfl
        · split <;> rfl
      · split
        · exact absurd rfl first
        all_goals rfl
    rw [List.foldl_cons, ih rest, kept]

theorem scanSeparator {s : Scan} {c : Char} (outside : s.inString = false)
    (separates : isSeparator c = true) :
    (s.step c).stack = s.stack ∧ (s.step c).inString = false := by
  unfold Scan.step
  rw [if_neg (by simp [outside])]
  split <;> first | exact ⟨rfl, outside⟩ | cases separates

theorem scanSeparators {seps : List Char} (s : Scan) (outside : s.inString = false)
    (separate : ∀ c ∈ seps, isSeparator c = true) :
    (seps.foldl Scan.step s).stack = s.stack := by
  induction seps generalizing s with
  | nil => rfl
  | cons c seps ih =>
    obtain ⟨same, still⟩ := scanSeparator outside (separate c List.mem_cons_self)
    rw [List.foldl_cons, ih _ still fun d member => separate d (List.mem_cons_of_mem c member),
      same]

theorem markedClosers {s marked : Scan} {awaits : Bool}
    (same : marked.stack = Scan.markColon awaits s.stack) : marked.closers = s.closers := by
  rw [Scan.closers, Scan.closers, same]
  unfold Scan.markColon
  split
  · rename_i brackets
    rw [brackets]
    rfl
  · rfl

theorem mirroredClosers {r : Reader} {s : Scan} (mirrors : Mirrors r s) :
    s.closers = r.stack.map closer := by
  have each : Scan.closers ⟨r.stack.map Frame.bracket, false, false, false, false⟩ =
      r.stack.map closer := by
    rw [Scan.closers, List.map_map]
    refine List.map_congr_left fun frame _ => ?_
    cases frame <;> rfl
  rw [← each]
  cases mode : r.mode with
  | colon name => exact markedClosers (by rw [mirrors.stack, Reader.brackets, mode])
  | _ => rw [Scan.closers, mirrors.stack, Reader.brackets, mode]; rfl

theorem mirroredAwaits {r : Reader} {s : Scan} (mirrors : Mirrors r s) (shaped : r.Shaped) :
    s.awaitsColon = r.awaits := by
  rw [Scan.awaitsColon, mirrors.stack]
  unfold Reader.brackets Reader.awaits
  cases mode : r.mode with
  | colon name =>
    unfold Shaped at shaped
    rw [mode] at shaped
    obtain ⟨members, below, same⟩ := shaped
    rw [same]
    rfl
  | _ =>
    dsimp only
    rcases r.stack with _ | ⟨frame, below⟩
    · rfl
    · cases frame <;> rfl

theorem finishRead {cs : List Char} {k : Reader} (read : start.run cs = .ok k) (sound : k.Sound)
    (outside : k.inText = false) (kept : ∀ c ∈ cs.getLast?, isSeparator c = false) (v : Json) :
    start.Yields (finish cs) v ↔ k.shown? = some v := by
  have mirrors := mirrorsRun read sound
  rw [finish, List.append_assoc, yieldsAfter read, mirroredAwaits mirrors (shapedRun read sound),
    mirroredClosers mirrors]
  rcases List.eq_nil_or_concat cs with rfl | ⟨front, c, rfl⟩
  · cases read
    constructor
    · rintro ⟨k, ok, ended⟩
      cases ok
      cases ended
    · nofun
  · rw [List.concat_eq_append] at *
    obtain ⟨m, first, move⟩ := runSnoc read
    have earlier := soundBefore first move sound
    rw [List.reverse_append]
    exact readyMove move (trailRun first earlier) (shapedRun read sound) earlier.letters
      (kept c (by simp)) outside v

theorem separatorsSplit (cs : List Char) :
    ∃ seps, cs = (dropSeparators cs.reverse).reverse ++ seps ∧
      (∀ c ∈ seps, isSeparator c = true) ∧
      ∀ c ∈ (dropSeparators cs.reverse).reverse.getLast?, isSeparator c = false := by
  have same : dropSeparators cs.reverse = cs.reverse.dropWhile isSeparator := rfl
  refine ⟨(cs.reverse.takeWhile isSeparator).reverse, ?_, ?_, ?_⟩
  · rw [same, ← List.reverse_append, List.takeWhile_append_dropWhile, List.reverse_reverse]
  · intro c member
    exact List.all_eq_true.mp List.all_takeWhile c (List.mem_reverse.mp member)
  · intro c last
    have first := List.head?_dropWhile_not isSeparator cs.reverse
    rw [List.getLast?_reverse, same] at last
    simpa [Option.mem_def.mp last] using first

theorem keptOutside {cs : List Char} (outside : (Scan.ofChars cs).inString = false) :
    (Scan.ofChars (dropSeparators cs.reverse).reverse).inString = false := by
  obtain ⟨seps, split, separate, -⟩ := separatorsSplit cs
  have unquoted : ∀ c ∈ seps, c ≠ '"' := by
    rintro c member rfl
    cases separate _ member
  rwa [split, Scan.ofChars, List.foldl_append, unquotedStays unquoted] at outside

theorem completedKept {cs : List Char} (outside : (Scan.ofChars cs).inString = false) :
    completed cs = finish (dropSeparators cs.reverse).reverse := by
  obtain ⟨seps, split, separate, -⟩ := separatorsSplit cs
  have stack : (Scan.ofChars cs).stack =
      (Scan.ofChars (dropSeparators cs.reverse).reverse).stack := by
    conv_lhs => rw [split, Scan.ofChars, List.foldl_append]
    exact scanSeparators _ (keptOutside outside) separate
  rw [← finishBy stack]
  simp only [completed, outside, Bool.false_eq_true, if_false]

structure Closes (cs front : List Char) : Prop where
  closed : closeCutString (Scan.ofChars cs) cs.reverse = '"' :: front.reverse
  inside : (Scan.ofChars front).inString = true
  free : (Scan.ofChars front).escaped = false
  isKey : (Scan.ofChars cs).stringIsKey = (Scan.ofChars front).stringIsKey
  brackets : (Scan.ofChars cs).stack = (Scan.ofChars front).stack

theorem completedClosed {cs front : List Char} (inside : (Scan.ofChars cs).inString = true)
    (closes : Closes cs front) : completed cs = finish (front ++ ['"']) := by
  have stack : (Scan.ofChars cs).closeString.stack =
      (Scan.ofChars ('"' :: front.reverse).reverse).stack := by
    rw [List.reverse_cons, List.reverse_reverse, scanSnoc, Scan.stepQuote closes.inside closes.free]
    simp only [Scan.closeString, closes.isKey, closes.brackets]
    split <;> rfl
  have finished := finishBy stack
  rw [List.reverse_cons, List.reverse_reverse] at finished
  have kept : dropSeparators ('"' :: front.reverse) = '"' :: front.reverse :=
    List.dropWhile_cons_of_neg Bool.false_ne_true
  simp only [completed, inside, if_true, closes.closed, kept, ← finished, List.reverse_cons,
    List.reverse_reverse]

theorem completedOutside {cs : List Char} {k : Reader} (read : start.run cs = .ok k)
    (sound : k.Sound) (outside : k.inText = false) (v : Json) :
    start.Yields (completed cs) v ↔ k.shown? = some v := by
  have out : (Scan.ofChars cs).inString = false := (mirrorsRun read sound).inString.trans outside
  -- The separators at the end change neither what can be shown nor which containers are open.
  obtain ⟨seps, split, separate, last⟩ := separatorsSplit cs
  have splitRead := read
  rw [split] at splitRead
  obtain ⟨m, first, rest⟩ := runSplits splitRead
  obtain ⟨before, same⟩ := separatorsRun first rest separate outside
  have earlier := soundEarlier first rest sound
  rw [same, ← finishRead first earlier before last v, completedKept out]

theorem completedInside {cs : List Char} {forKey : Bool} {held : List Char} {e : Escape}
    {s : List Frame} (read : start.run cs = .ok ⟨.text forKey held e, s⟩)
    (sound : Sound ⟨.text forKey held e, s⟩) (v : Json) :
    start.Yields (completed cs) v ↔ shown? ⟨.text forKey held e, s⟩ = some v := by
  obtain ⟨front, closed, opened⟩ := closesCut read sound
  have whole := mirrorsRun read sound
  have cut := mirrorsRun opened betweenSound
  have inside : (Scan.ofChars cs).inString = true := whole.inString
  have free : (Scan.ofChars front).escaped = false := by
    rw [cut.escaped]
    cases e.waiting? <;> rfl
  have isKey : (Scan.ofChars cs).stringIsKey = (Scan.ofChars front).stringIsKey := by
    rw [whole.stringIsKey rfl, cut.stringIsKey rfl]
    cases forKey <;> rfl
  have brackets : (Scan.ofChars cs).stack = (Scan.ofChars front).stack :=
    whole.stack.trans cut.stack.symm
  have text := completedClosed inside ⟨closed, cut.inString, free, isKey, brackets⟩
  rw [text]
  cases waits : e.waiting? with
  | none =>
    rw [waits] at opened
    have ended : start.run (front ++ ['"']) = .ok (closeText forKey held s) := by
      rw [runAppend opened]
      rfl
    have last : ∀ c ∈ (front ++ ['"']).getLast?, isSeparator c = false := by
      rw [List.getLast?_concat]
      rintro c ⟨⟩
      rfl
    cases forKey with
    | true =>
      have plain : Sound (closeText true held s) := by
        constructor <;> simp [closeText, Letters]
      rw [finishRead ended plain rfl last]
      simp [shown?, waits, closeText]
    | false =>
      have plain := soundDeliver (.string (String.ofList held.reverse)) s
      have out := outsideDeliver (.string (String.ofList held.reverse)) s
      have shown : shown? ⟨.text false held e, s⟩ =
          some (closeFrames (.string (String.ofList held.reverse)) s) := by
        simp [shown?, waits]
      rw [finishRead ended plain out last, shown, closeText, if_neg Bool.false_ne_true,
        shownDeliver]
  -- Behind a leading surrogate the quote is an error, and nothing is shown either.
  | some h =>
    rw [waits] at opened
    have unshown : shown? ⟨.text forKey held e, s⟩ = none := by simp [shown?, waits]
    rw [unshown, finish, List.append_assoc, List.append_assoc, yieldsAfter opened]
    constructor
    · rintro ⟨k, ok, -⟩
      cases ok
    · rintro ⟨⟩

/-- Completing a text that breaks off gives a document exactly when something can be shown of
it, and then that is its value. -/
theorem completedRead {cs : List Char} {k : Reader} (read : start.run cs = .ok k)
    (sound : k.Sound) (v : Json) : start.Yields (completed cs) v ↔ k.shown? = some v := by
  obtain ⟨mode, s⟩ := k
  cases mode with
  | text => exact completedInside read sound v
  | _ => exact completedOutside read sound rfl v

end ChaincodeConsole.Json
