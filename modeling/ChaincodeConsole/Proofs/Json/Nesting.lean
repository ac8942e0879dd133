import ChaincodeConsole.Proofs.Json.Previews

/-! A value is read inside of open containers as it is alone: the reader does the same above them,
and hands the value to the innermost one when it is complete. -/
namespace ChaincodeConsole.Json.Reader

def above (base : List Frame) (r : Reader) : Reader :=
  match r.mode with
  | .done v => deliver v base
  | m => ⟨m, r.stack ++ base⟩

theorem aboveDeliver (v : Json) (s base : List Frame) :
    above base (deliver v s) = deliver v (s ++ base) := by
  cases s with
  | nil => rfl
  | cons frame s => cases frame <;> rfl

def Agrees (base : List Frame) (alone nested : Except Stop Reader) : Prop :=
  ∀ r k, alone = .ok r → nested = .ok k → k = above base r

theorem agreesOk {base : List Frame} {r k : Reader} (same : k = above base r) :
    Agrees base (.ok r) (.ok k) := by
  rintro _ _ ⟨⟩ ⟨⟩
  exact same

theorem agreesStop {base : List Frame} {e : Stop} {nested : Except Stop Reader} :
    Agrees base (.error e) nested := by
  rintro _ _ ⟨⟩

theorem agreesIf {base : List Frame} {p : Prop} [Decidable p] {a b c d : Except Stop Reader}
    (yes : p → Agrees base a b) (no : ¬p → Agrees base c d) :
    Agrees base (if p then a else c) (if p then b else d) := by
  by_cases holds : p
  · simpa only [if_pos holds] using yes holds
  · simpa only [if_neg holds] using no holds

theorem containerAgrees (base s : List Frame) {m : Mode} (frame : Frame)
    (running : ∀ v, m ≠ .done v) :
    Agrees base (openContainer m frame s) (openContainer m frame (s ++ base)) := by
  intro r k alone nested
  unfold openContainer at alone nested
  split at alone
  · split at nested
    · cases alone
      cases nested
      cases m <;> first | rfl | exact absurd rfl (running _)
    · cases nested
  · cases alone

theorem openAgrees (base s : List Frame) (c : Char) :
    Agrees base (openValue s c) (openValue (s ++ base) c) := by
  unfold openValue
  split
  · exact containerAgrees base s _ nofun
  · exact containerAgrees base s _ nofun
  · exact agreesOk rfl
  · exact agreesOk rfl
  · exact agreesOk rfl
  · exact agreesOk rfl
  · split
    · exact agreesOk rfl
    · exact agreesStop

theorem separateAgrees (base s : List Frame) (frame : Frame) (c : Char) :
    Agrees base (separate (frame :: s) c) (separate (frame :: s ++ base) c) := by
  cases frame with
  | list items =>
    exact agreesIf (fun _ => agreesOk rfl) fun _ =>
      agreesIf (fun _ => agreesOk (aboveDeliver _ s base).symm) fun _ => agreesStop
  | record members =>
    exact agreesIf (fun _ => agreesOk rfl) fun _ =>
      agreesIf (fun _ => agreesOk (aboveDeliver _ s base).symm) fun _ => agreesStop
  | member members key => exact agreesStop

theorem closeAbove (base s : List Frame) (forKey : Bool) (held : List Char) :
    closeText forKey held (s ++ base) = above base (closeText forKey held s) := by
  cases forKey with
  | true => rfl
  | false => exact (aboveDeliver _ s base).symm

theorem textAgrees (base s : List Frame) (forKey : Bool) (held : List Char) (e : Escape)
    (c : Char) :
    Agrees base (textStep forKey held e s c) (textStep forKey held e (s ++ base) c) := by
  unfold textStep
  refine agreesIf (fun _ => agreesOk (closeAbove base s forKey held)) fun _ => ?_
  refine agreesIf (fun _ => agreesOk rfl) fun _ => agreesIf (fun _ => agreesStop) fun _ => ?_
  cases escapeStep held e c with
  | error stop => exact agreesStop
  | ok pair => exact agreesOk rfl

theorem plainAgrees (base s : List Frame) {m : Mode} (c : Char) (running : ∀ v, m ≠ .done v)
    (shaped : Shaped ⟨m, s⟩) : Agrees base (plainStep ⟨m, s⟩ c) (plainStep ⟨m, s ++ base⟩ c) := by
  cases m with
  | done v => exact absurd rfl (running v)
  | text forKey held e => exact textAgrees base s forKey held e c
  | number n => exact agreesOk rfl
  | word left v =>
    cases left with
    | nil => exact agreesOk (aboveDeliver v s base).symm
    | cons w left =>
      refine agreesIf (fun _ => agreesOk ?_) fun _ => agreesStop
      cases left with
      | nil => exact (aboveDeliver v s base).symm
      | cons _ _ => rfl
  | value => exact agreesIf (fun _ => agreesOk rfl) fun _ => openAgrees base s c
  | firstItem =>
    obtain ⟨below, ⟨⟩⟩ := shaped
    refine agreesIf (fun _ => agreesOk rfl) fun _ => agreesIf (fun _ => ?_) fun _ =>
      openAgrees base _ c
    exact agreesOk (aboveDeliver _ below base).symm
  | item =>
    exact agreesIf (fun _ => agreesOk rfl) fun _ => agreesIf (fun _ => agreesStop) fun _ =>
      openAgrees base s c
  | firstKey =>
    obtain ⟨below, ⟨⟩⟩ := shaped
    refine agreesIf (fun _ => agreesOk rfl) fun _ => agreesIf (fun _ => ?_) fun _ =>
      agreesIf (fun _ => agreesOk rfl) fun _ => agreesStop
    exact agreesOk (aboveDeliver _ below base).symm
  | key =>
    exact agreesIf (fun _ => agreesOk rfl) fun _ => agreesIf (fun _ => agreesStop) fun _ =>
      agreesIf (fun _ => agreesOk rfl) fun _ => agreesStop
  | colon name =>
    obtain ⟨members, below, ⟨⟩⟩ := shaped
    exact agreesIf (fun _ => agreesOk rfl) fun _ => agreesIf (fun _ => agreesOk rfl) fun _ =>
      agreesStop
  | next =>
    refine agreesIf (fun _ => agreesOk rfl) fun _ => ?_
    rcases shaped with ⟨items, below, ⟨⟩⟩ | ⟨members, below, ⟨⟩⟩
    · exact separateAgrees base below _ c
    · exact separateAgrees base below _ c

theorem plainAbove {base : List Frame} {r next k : Reader} {c : Char} (shaped : r.Shaped)
    (still : ∀ n, r.mode ≠ .number n) (alone : r.plainStep c = .ok next)
    (nested : (above base r).plainStep c = .ok k) : k = above base next := by
  obtain ⟨mode, s⟩ := r
  cases mode with
  | done v =>
    simp only [plainStep] at alone
    split at alone
    · rename_i blank
      cases alone
      have same : (deliver v base).plainStep c = .ok (deliver v base) := by
        unfold plainStep
        rcases deliverMode v base with mode | mode <;> rw [mode] <;> exact if_pos blank
      exact Except.ok.inj (nested.symm.trans same)
    · cases alone
  | number n => exact absurd rfl (still n)
  | _ =>
    refine plainAgrees base s c (fun v same => ?_) shaped next k alone nested
    cases same

theorem stepAbove {base : List Frame} {r next k : Reader} {c : Char} (shaped : r.Shaped)
    (alone : r.step c = .ok next) (nested : (above base r).step c = .ok k) :
    k = above base next := by
  have notNumber (v : Json) (s : List Frame) (n : Numeral) : (deliver v s).mode ≠ .number n :=
    deliverOther (by simp) (by simp) v s
  obtain ⟨mode, s⟩ := r
  cases mode with
  | number n =>
    simp only [step] at alone
    change step ⟨.number n, s ++ base⟩ c = .ok k at nested
    simp only [step] at nested
    cases stepped : n.step c with
    | more m =>
      simp only [stepped] at alone nested
      cases alone
      cases nested
      rfl
    | stop e =>
      simp only [stepped] at alone
      cases alone
    | past =>
      simp only [stepped] at alone nested
      split at alone
      · rename_i x value
        rw [value] at nested
        dsimp only at nested
        rw [← aboveDeliver] at nested
        exact plainAbove (shapedDeliver _ s) (notNumber _ s) alone nested
      · cases alone
      · cases alone
  | done v =>
    have same : (above base ⟨.done v, s⟩).step c = (above base ⟨.done v, s⟩).plainStep c := by
      change (deliver v base).step c = (deliver v base).plainStep c
      unfold step
      split
      · rename_i n number
        exact absurd number (notNumber v base n)
      · rfl
    exact plainAbove shaped (by rintro _ ⟨⟩) alone (same.symm.trans nested)
  | _ => exact plainAbove shaped (by rintro _ ⟨⟩) alone nested

/-- The second reader does above `base` what the first does alone, or both wait for the first
character of a value. -/
def Follows (m : Mode) (base : List Frame) (alone nested : Reader) : Prop :=
  (alone = start ∧ nested = ⟨m, base⟩) ∨ nested = above base alone

theorem beginFollows {m : Mode} {base : List Frame} {c : Char} {next k : Reader}
    (free : m.wants = true) (alone : start.step c = .ok next)
    (nested : step ⟨m, base⟩ c = .ok k) : Follows m base next k := by
  change (if isSpace c then .ok start else openValue [] c) = .ok next at alone
  by_cases blank : isSpace c = true
  · rw [if_pos blank] at alone
    cases alone
    refine .inl ⟨rfl, ?_⟩
    cases m with
    | value | firstItem | item =>
      refine Except.ok.inj (nested.symm.trans ?_)
      exact if_pos blank
    | _ => cases free
  · rw [if_neg blank] at alone
    have close : c ≠ ']' := by
      rintro rfl
      cases alone
    suffices opened : openValue base c = .ok k from .inr (openAgrees base [] c next k alone opened)
    cases m with
    | value | firstItem | item => simpa [step, plainStep, blank, close] using nested
    | _ => cases free

theorem runFollows {m : Mode} {base : List Frame} {text : List Char} {alone nested r k : Reader}
    (free : m.wants = true) (follows : Follows m base alone nested) (shaped : alone.Shaped)
    (first : alone.run text = .ok r) (second : nested.run text = .ok k) :
    Follows m base r k := by
  induction text generalizing alone nested with
  | nil =>
    cases first
    cases second
    exact follows
  | cons c text ih =>
    obtain ⟨next, step, move, later⟩ := runCons first
    obtain ⟨after, stepped, -, rest⟩ := runCons second
    rw [runOne] at step stepped
    refine ih ?_ (shapedMove move shaped) later rest
    rcases follows with ⟨rfl, rfl⟩ | rfl
    · exact beginFollows free step stepped
    · exact .inr (stepAbove shaped step stepped)

theorem runAbove {m : Mode} {base : List Frame} {text : List Char} {v : Json} {k : Reader}
    (free : m.wants = true) (alone : start.Yields text v) (nested : run ⟨m, base⟩ text = .ok k) :
    ∃ r, r.atEnd = .ok v ∧ k = above base r := by
  obtain ⟨r, read, ended⟩ := alone
  refine ⟨r, ended, ?_⟩
  rcases runFollows free (.inl ⟨rfl, rfl⟩) trivial read nested with ⟨rfl, -⟩ | same
  · cases ended
  · exact same

end ChaincodeConsole.Json.Reader
