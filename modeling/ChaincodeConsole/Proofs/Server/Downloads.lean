import ChaincodeConsole.Proofs.Server.Disks
import ChaincodeConsole.Server.Download

/-! Downloads, step by step. While the body comes only the partial file is written, which is no
directory on the way to the destination and not the destination itself. So at every step there is
at the destination what was there first or the whole body, and the body only at the end. -/
namespace ChaincodeConsole

namespace Download

theorem partialCases (dest : Path) : ∃ front name, partialPath dest = front ++ [name] ∧
    2 < name.length ∧ partialPath dest ≠ dest ∧ dest.length ≤ (partialPath dest).length := by
  unfold partialPath
  split
  · refine ⟨dest, partialMark, rfl, by decide, fun same => ?_, by simp⟩
    simpa using congrArg List.length same
  · rename_i below
    rcases List.eq_nil_or_concat dest with rfl | ⟨front, name, rfl⟩
    · cases below rfl
    · have long : (name ++ partialMark).length = name.length + 5 := String.length_append _ _
      refine ⟨front, name ++ partialMark, by simp [Path.parent], by omega, fun same => ?_, ?_⟩
      · have longer : (name ++ partialMark).length = name.length := by
          simpa [Path.parent] using congrArg (fun p : Path => (p.getLast?.getD "").length) same
        omega
      · simp [Path.parent]

theorem partialBelow (dest : Path) : (partialPath dest).isAbove = false := by
  obtain ⟨front, name, same, long, -⟩ := partialCases dest
  rw [same]
  exact Path.belowNamed long

theorem partialOther (dest : Path) : partialPath dest ≠ dest := by
  obtain ⟨-, -, -, -, other, -⟩ := partialCases dest
  exact other

theorem partialLong (dest : Path) : dest.length ≤ (partialPath dest).length := by
  obtain ⟨-, -, -, -, -, long⟩ := partialCases dest
  exact long

theorem partialNamed (dest : Path) : partialPath dest ≠ [] := by
  obtain ⟨front, name, same, -⟩ := partialCases dest
  simp [same]

theorem offWay {dest p : Path} (long : dest.length ≤ p.length) : p ∉ dest.parent.way := by
  intro inside
  obtain ⟨filled, less⟩ := Path.wayLength inside
  simp only [Path.parent, List.length_dropLast] at less
  omega

structure Beside (part : Path) (d s : Disk) : Prop where
  others : ∀ q, q ≠ part → s.get? q = d.get? q
  file : s.isDir part = false

theorem besidePut {part : Path} {d s : Disk} (below : part.isAbove = false)
    (beside : Beside part d s) (bytes : List UInt8) :
    Beside part d (s.put part (.file bytes)) where
  others q other := by rw [Disk.getPut, if_neg other, beside.others q other]
  file := by simp [Disk.isDir, Disk.getPut, below]

theorem fillBeside {part : Path} {first d : Disk} (below : part.isAbove = false)
    {refused : Option Nat} {complete : Bool} {held : List UInt8} {chunks : List (List UInt8)}
    (beside : Beside part first d) :
    ∀ s ∈ (fill part refused complete held d chunks).1, Beside part first s := by
  induction chunks generalizing refused held d with
  | nil =>
    unfold fill
    split
    · nofun
    · split <;> nofun
  | cons chunk rest ih =>
    unfold fill
    split
    · nofun
    · have next := besidePut below beside (held ++ chunk)
      exact List.forall_mem_cons.mpr ⟨next, ih next⟩

theorem fillWhole {part : Path} {d : Disk} {refused : Option Nat} {complete : Bool}
    {held : List UInt8} {chunks : List (List UInt8)} (opened : d.get? part = some (.file held))
    (whole : (fill part refused complete held d chunks).2 = none) :
    ((fill part refused complete held d chunks).1.getLastD d).get? part =
      some (.file (held ++ chunks.flatten)) := by
  induction chunks generalizing refused held d with
  | nil =>
    unfold fill
    split
    · simpa using opened
    · split <;> simpa using opened
  | cons chunk rest ih =>
    unfold fill at whole ⊢
    split at whole
    · cases whole
    · rename_i taken
      rw [if_neg taken]
      have next : (d.put part (.file (held ++ chunk))).get? part =
          some (.file (held ++ chunk)) := by rw [Disk.getPut, if_pos rfl]
      rw [List.getLastD_cons, List.flatten_cons, ← List.append_assoc]
      exact ih next whole

theorem fillGoes {part : Path} {d : Disk} {refused : Option Nat} {complete : Bool}
    {held : List UInt8} {chunks : List (List UInt8)} :
    (fill part refused complete held d chunks).2 = none ↔
      complete = true ∧ ∀ n, refused = some n → chunks.length < n := by
  induction chunks generalizing refused held d with
  | nil =>
    unfold fill
    cases complete <;> cases refused with
    | none => simp
    | some n => cases n <;> simp
  | cons chunk rest ih =>
    unfold fill
    cases refused with
    | none => simp [ih]
    | some n =>
      cases n with
      | zero => simp
      | succ n => simp [ih]

theorem bodyCases (part : Path) (refused : Option Nat) (r : Reply) (d : Disk) :
    (writeBody part refused r d = ([], some .storage) ∧
      (refused = some 0 ∨ d.canHold part = false)) ∨
    ∃ opened, opened = d.put part (.file []) ∧ refused ≠ some 0 ∧ d.canHold part = true ∧
      writeBody part refused r d =
        (opened :: (fill part (refused.map (· - 1)) r.complete [] opened r.chunks).1,
          (fill part (refused.map (· - 1)) r.complete [] opened r.chunks).2) := by
  unfold writeBody Disk.write?
  by_cases shut : refused = some 0
  · exact .inl ⟨by simp [shut], .inl shut⟩
  · cases hold : d.canHold part with
    | false => exact .inl ⟨by simp, .inr rfl⟩
    | true => exact .inr ⟨_, rfl, shut, rfl, by simp [shut]⟩

theorem bodyBeside {part : Path} (below : part.isAbove = false) {d : Disk}
    (file : d.isDir part = false) (refused : Option Nat) (r : Reply) :
    ∀ s ∈ d :: (writeBody part refused r d).1, Beside part d s := by
  have first : Beside part d d := ⟨fun _ _ => rfl, file⟩
  rcases bodyCases part refused r d with ⟨unopened, -⟩ | ⟨opened, rfl, -, -, written⟩
  · rw [unopened]
    exact List.forall_mem_singleton.mpr first
  · rw [written]
    have beside := besidePut below first []
    exact List.forall_mem_cons.mpr
      ⟨first, List.forall_mem_cons.mpr ⟨beside, fillBeside below beside⟩⟩

theorem bodyShut {part : Path} {refused : Option Nat} {r : Reply} {d : Disk}
    (dir : d.isDir part = true) : writeBody part refused r d = ([], some .storage) := by
  rcases bodyCases part refused r d with ⟨unopened, -⟩ | ⟨opened, -, -, hold, -⟩
  · exact unopened
  · simp [Disk.canHold, dir] at hold

theorem bodyWhole {part : Path} {refused : Option Nat} {r : Reply} {d : Disk}
    (whole : (writeBody part refused r d).2 = none) :
    ((writeBody part refused r d).1.getLastD d).get? part = some (.file r.bytes) := by
  rcases bodyCases part refused r d with ⟨unopened, -⟩ | ⟨opened, same, -, -, written⟩
  · rw [unopened] at whole
    cases whole
  · rw [written] at whole ⊢
    have begun : opened.get? part = some (.file []) := by
      rw [same, Disk.getPut, if_pos rfl]
    rw [List.getLastD_cons]
    exact fillWhole begun whole

theorem bodyGoes {part : Path} {refused : Option Nat} {r : Reply} {d : Disk} :
    (writeBody part refused r d).2 = none ↔ d.canHold part = true ∧ r.complete = true ∧
      ∀ n, refused = some n → r.chunks.length + 1 < n := by
  rcases bodyCases part refused r d with
    ⟨unopened, shut | full⟩ | ⟨opened, same, goes, hold, written⟩
  · rw [unopened]
    simp [shut]
  · simp [unopened, full]
  · rw [written, fillGoes, hold]
    cases refused with
    | none => simp
    | some n =>
      cases n with
      | zero => exact absurd rfl goes
      | succ n => simp

inductive Goes (disk : Disk) (dest : Path) (refused : Option Nat) (r : Reply) : Run → Prop where
  | unmade {ready : Disk} (made : disk.makeDirs dest.parent = (ready, false)) :
      Goes disk dest refused r ⟨[disk, ready], .error .storage⟩
  | failed {ready : Disk} {states : List Disk} {f : Failure}
      (made : disk.makeDirs dest.parent = (ready, true))
      (body : writeBody (partialPath dest) refused r ready = (states, some f)) :
      Goes disk dest refused r
        ⟨disk :: ready :: states ++ [(states.getLastD ready).unlink (partialPath dest)], .error f⟩
  | saved {ready final : Disk} {states : List Disk}
      (made : disk.makeDirs dest.parent = (ready, true))
      (body : writeBody (partialPath dest) refused r ready = (states, none))
      (renamed : (states.getLastD ready).rename? (partialPath dest) dest = some final) :
      Goes disk dest refused r ⟨disk :: ready :: states ++ [final], .ok r.bytes.length⟩
  | kept {ready : Disk} {states : List Disk} (made : disk.makeDirs dest.parent = (ready, true))
      (body : writeBody (partialPath dest) refused r ready = (states, none))
      (stuck : (states.getLastD ready).rename? (partialPath dest) dest = none) :
      Goes disk dest refused r ⟨disk :: ready :: states, .error .storage⟩

theorem saveGoes (disk : Disk) (dest : Path) (refused : Option Nat) (r : Reply) :
    Goes disk dest refused r (save disk dest refused r) := by
  unfold save
  cases making : disk.makeDirs dest.parent with
  | mk ready made =>
    cases made with
    | false => exact .unmade making
    | true =>
      simp only [Bool.not_true, Bool.false_eq_true, if_false]
      cases writing : writeBody (partialPath dest) refused r ready with
      | mk states failure =>
        cases failure with
        | some f => exact .failed making writing
        | none =>
          dsimp only
          cases moved : (states.getLastD ready).rename? (partialPath dest) dest with
          | some final => exact .saved making writing moved
          | none => exact .kept making writing moved

theorem readyOff {disk ready : Disk} {dest q : Path} {ok : Bool}
    (made : disk.makeDirs dest.parent = (ready, ok)) (long : dest.length ≤ q.length) :
    ready.get? q = disk.get? q := by
  have same := Disk.makeOther (d := disk) (offWay long)
  rwa [← Disk.makeDirs, made] at same

theorem readyDir {disk ready : Disk} {dest : Path}
    (made : disk.makeDirs dest.parent = (ready, true)) : ready.isDir dest.parent = true := by
  have dir := Path.parentMade (d := disk) (p := dest.parent) (by rw [made])
  rwa [made] at dir

theorem readyFile {disk ready : Disk} {dest : Path} {ok : Bool}
    (made : disk.makeDirs dest.parent = (ready, ok)) :
    ready.isDir (partialPath dest) = disk.isDir (partialPath dest) := by
  rw [Disk.isDir, readyOff made (partialLong dest), Disk.isDir]

theorem readyHolds {disk ready : Disk} {dest : Path}
    (made : disk.makeDirs dest.parent = (ready, true))
    (file : disk.isDir (partialPath dest) = false) : ready.canHold (partialPath dest) = true := by
  have home : ready.isDir (partialPath dest).parent = true := by
    unfold partialPath
    split
    · rename_i above
      simp [Path.parent, Disk.isDir, above]
    · have dir := readyDir made
      simpa [Path.parent] using dir
  simp [Disk.canHold, home, readyFile made, file, partialNamed]

theorem bodyOff {part q : Path} (below : part.isAbove = false) (other : q ≠ part) (d : Disk)
    (refused : Option Nat) (r : Reply) :
    ∀ s ∈ d :: (writeBody part refused r d).1, s.get? q = d.get? q := by
  cases dir : d.isDir part with
  | true =>
    rw [bodyShut dir]
    simp
  | false => exact fun s inside => (bodyBeside below dir refused r s inside).others q other

/-- A run either leaves the destination as it is at every step and fails, or does so up to the last
step, at which the whole body is there. -/
inductive Settled (disk : Disk) (dest : Path) (r : Reply) : Run → Prop where
  | failed {states : List Disk} {f : Failure}
      (kept : ∀ s ∈ states, s.get? dest = disk.get? dest) : Settled disk dest r ⟨states, .error f⟩
  | saved {before : List Disk} {final : Disk} (whole : r.complete = true)
      (kept : ∀ s ∈ before, s.get? dest = disk.get? dest)
      (there : final.get? dest = some (.file r.bytes))
      (gone : final.get? (partialPath dest) = none) :
      Settled disk dest r ⟨before ++ [final], .ok r.bytes.length⟩

theorem saveSettled {disk : Disk} {dest : Path} {refused : Option Nat} {r : Reply} {run : Run}
    (goes : Goes disk dest refused r run) : Settled disk dest r run := by
  have other := (partialOther dest).symm
  have off {ready : Disk} {ok : Bool} (made : disk.makeDirs dest.parent = (ready, ok)) :=
    readyOff made (Nat.le_refl _)
  have body {ready : Disk} (made : disk.makeDirs dest.parent = (ready, true)) :
      ∀ s ∈ disk :: ready :: (writeBody (partialPath dest) refused r ready).1,
        s.get? dest = disk.get? dest := by
    have later := bodyOff (partialBelow dest) other ready refused r
    rw [off made] at later
    exact List.forall_mem_cons.mpr ⟨rfl, later⟩
  cases goes with
  | unmade made => exact .failed (by simp [off made])
  | failed made wrote =>
    have kept := body made
    rw [wrote] at kept
    refine .failed (List.forall_mem_append.mpr ⟨kept, ?_⟩)
    rw [List.forall_mem_singleton, Disk.unlinkOther _ other]
    exact kept _ (List.mem_cons_of_mem _ List.getLastD_mem_cons)
  | saved made wrote moved =>
    have kept := body made
    have goesOn := congrArg Prod.snd wrote
    have held := bodyWhole goesOn
    rw [wrote] at kept held
    obtain ⟨bytes, read, rfl⟩ := Disk.renameCases moved
    have whole := held.symm.trans (Disk.readFile.mp read)
    cases whole
    refine .saved (bodyGoes.mp goesOn).2.1 kept ?_ ?_
    · rw [Disk.getPut, if_pos rfl]
    · rw [Disk.getPut, if_neg other.symm, Disk.getDrop, if_pos rfl]
  | kept made wrote =>
    have kept := body made
    rw [wrote] at kept
    exact .failed kept

@[simp]
theorem finalLast (before : List Disk) (final : Disk) (outcome : Except Failure Nat) :
    Run.final ⟨before ++ [final], outcome⟩ = final := by simp [Run.final]

theorem failedRemoves {disk : Disk} {dest : Path} {refused : Option Nat} {r : Reply} {run : Run}
    (goes : Goes disk dest refused r run) (made : (disk.makeDirs dest.parent).2 = true)
    (file : disk.isDir (partialPath dest) = false)
    (fails : r.complete = false ∨ ∃ n, refused = some n ∧ n ≤ r.chunks.length + 1) :
    (∃ f, run.outcome = .error f) ∧ run.final.get? (partialPath dest) = none := by
  have stops {ready : Disk} : (writeBody (partialPath dest) refused r ready).2 ≠ none := by
    intro whole
    obtain ⟨-, complete, taken⟩ := bodyGoes.mp whole
    rcases fails with cut | ⟨n, same, early⟩
    · cases cut.symm.trans complete
    · exact Nat.not_lt.mpr early (taken n same)
  cases goes with
  | unmade unmade => simp [unmade] at made
  | @failed ready states f made wrote =>
    have beside := bodyBeside (partialBelow dest) ((readyFile made).trans file) refused r
    rw [wrote] at beside
    have last := (beside _ List.getLastD_mem_cons).file
    exact ⟨⟨f, rfl⟩, by rw [finalLast, Disk.unlinkGone last]⟩
  | saved made wrote => exact absurd (congrArg Prod.snd wrote) stops
  | kept made wrote => exact absurd (congrArg Prod.snd wrote) stops

theorem destHolds {disk ready last : Disk} {dest : Path}
    (made : disk.makeDirs dest.parent = (ready, true)) (free : disk.isDir dest = false)
    (beside : Beside (partialPath dest) ready last) :
    (last.drop (partialPath dest)).canHold dest = true := by
  have dirs {q : Path} (other : q ≠ partialPath dest) :
      (last.drop (partialPath dest)).isDir q = ready.isDir q := by
    simp only [Disk.isDir, Disk.getDrop, if_neg other, beside.others q other]
  have named : dest ≠ [] := by
    intro top
    cases top ▸ free
  have home : dest.parent ≠ partialPath dest := by
    intro same
    have long := partialLong dest
    have longer := List.length_pos_iff.mpr named
    simp only [← same, Path.parent, List.length_dropLast] at long
    omega
  have still : ready.isDir dest = false := by
    rw [Disk.isDir, readyOff made (Nat.le_refl _)]
    exact free
  simp [Disk.canHold, dirs home, dirs (partialOther dest).symm, readyDir made, still, named]

theorem wholeSaves {disk : Disk} {dest : Path} {refused : Option Nat} {r : Reply} {run : Run}
    (goes : Goes disk dest refused r run) (made : (disk.makeDirs dest.parent).2 = true)
    (file : disk.isDir (partialPath dest) = false) (free : disk.isDir dest = false)
    (complete : r.complete = true)
    (taken : ∀ n, refused = some n → r.chunks.length + 1 < n) :
    run.outcome = .ok r.bytes.length := by
  have whole {ready : Disk} (made : disk.makeDirs dest.parent = (ready, true)) :
      (writeBody (partialPath dest) refused r ready).2 = none :=
    bodyGoes.mpr ⟨readyHolds made file, complete, taken⟩
  cases goes with
  | unmade unmade => simp [unmade] at made
  | failed made wrote => cases (whole made).symm.trans (congrArg Prod.snd wrote)
  | saved => rfl
  | kept made wrote stuck =>
    have held := bodyWhole (whole made)
    have beside := bodyBeside (partialBelow dest) ((readyFile made).trans file) refused r
    rw [wrote] at held beside
    have holds := destHolds made free (beside _ List.getLastD_mem_cons)
    cases stuck.symm.trans (Disk.renameGoes held holds)

structure Atomic (disk : Disk) (dest : Path) (refused : Option Nat) (d : Delivery) (run : Run) :
    Prop where
  steps : ∀ s ∈ run.states, s.get? dest = disk.get? dest ∨
    ∃ r, d = .ok r ∧ r.isSuccess = true ∧ r.complete = true ∧ s.get? dest = some (.file r.bytes)
  saved : ∀ n, run.outcome = .ok n → ∃ r, d = .ok r ∧ r.isSuccess = true ∧ r.complete = true ∧
    n = r.bytes.length ∧ run.final.get? dest = some (.file r.bytes) ∧
    run.final.get? (partialPath dest) = none
  failed : ∀ f, run.outcome = .error f → ∀ s ∈ run.states, s.get? dest = disk.get? dest
  unsent : ∀ trouble, d = .error trouble → run = ⟨[disk], .error (.transport trouble)⟩
  turnedAway : ∀ r, d = .ok r → r.isSuccess = false → run = ⟨[disk], .error r.refusal⟩
  -- A partial file that cannot be made is a directory, and removing it would fail.
  removed : ∀ r, d = .ok r → r.isSuccess = true → (disk.makeDirs dest.parent).2 = true →
    disk.isDir (partialPath dest) = false →
    (r.complete = false ∨ ∃ n, refused = some n ∧ n ≤ r.chunks.length + 1) →
    (∃ f, run.outcome = .error f) ∧ run.final.get? (partialPath dest) = none
  goes : ∀ r, d = .ok r → r.isSuccess = true → (disk.makeDirs dest.parent).2 = true →
    disk.isDir (partialPath dest) = false → disk.isDir dest = false → r.complete = true →
    (∀ n, refused = some n → r.chunks.length + 1 < n) → run.outcome = .ok r.bytes.length

theorem idleAtomic {disk : Disk} {dest : Path} {refused : Option Nat} {d : Delivery} {f : Failure}
    (idle : d.accepted = .error f) : Atomic disk dest refused d ⟨[disk], .error f⟩ := by
  cases d with
  | error trouble =>
    cases idle
    constructor <;> simp
  | ok r =>
    cases success : r.isSuccess with
    | true => simp [Delivery.accepted, success] at idle
    | false =>
      simp only [Delivery.accepted, success, Bool.false_eq_true, if_false] at idle
      cases idle
      constructor <;> simp [success]

theorem goesAtomic {disk : Disk} {dest : Path} {refused : Option Nat} {r : Reply} {run : Run}
    (success : r.isSuccess = true) (goes : Goes disk dest refused r run) :
    Atomic disk dest refused (.ok r) run where
  steps s inside := by
    cases saveSettled goes with
    | failed kept => exact .inl (kept s inside)
    | saved whole kept there =>
      rcases List.mem_append.mp inside with before | last
      · exact .inl (kept s before)
      · cases List.mem_singleton.mp last
        exact .inr ⟨r, rfl, success, whole, there⟩
  saved n finished := by
    cases saveSettled goes with
    | failed => cases finished
    | saved whole _ there gone =>
      cases finished
      rw [finalLast]
      exact ⟨r, rfl, success, whole, rfl, there, gone⟩
  failed f stopped := by
    cases saveSettled goes with
    | failed kept => exact kept
    | saved => cases stopped
  unsent := nofun
  turnedAway _ same refusal := by
    cases same
    cases success.symm.trans refusal
  removed _ same _ made file fails := by
    cases same
    exact failedRemoves goes made file fails
  goes _ same _ made file free complete taken := by
    cases same
    exact wholeSaves goes made file free complete taken

/-- A download puts the whole body in the place of the destination in one step, or leaves the
destination alone. -/
theorem downloadAtomic (disk : Disk) (dest : Path) (refused : Option Nat) (d : Delivery) :
    Atomic disk dest refused d (run disk dest refused d) := by
  unfold run
  cases accepted : d.accepted with
  | error f => exact idleAtomic accepted
  | ok r =>
    cases d with
    | error trouble => cases accepted
    | ok reply =>
      cases success : reply.isSuccess with
      | true =>
        simp only [Delivery.accepted, success, if_true] at accepted
        cases accepted
        exact goesAtomic success (saveGoes disk dest refused r)
      | false => simp [Delivery.accepted, success] at accepted

example :
    let disk : Disk := ⟨[(["a.zip"], .file [1]), (["a.zip.part"], .file [2])]⟩
    let cut := run disk ["a.zip"] none (.ok ⟨200, [[3], [4]], false⟩)
    cut.states.length = 6 ∧ cut.final = ⟨[(["a.zip"], .file [1])]⟩ := by decide

end Download

end ChaincodeConsole
