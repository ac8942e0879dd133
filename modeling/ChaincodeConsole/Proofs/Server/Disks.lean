import ChaincodeConsole.Disk

/-! What stands at a place of the disk after each operation on it, and which places lie on the way
to another. -/
namespace ChaincodeConsole

namespace Disk

theorem getDrop (d : Disk) (p q : Path) :
    (d.drop p).get? q = if q = p then none else d.get? q := by
  by_cases same : q = p
  · subst same
    simp [get?, drop]
  · rw [if_neg same]
    simp only [get?, drop, List.find?_filter]
    congr 2
    funext entry
    by_cases here : entry.1 = q
    · simp [here, same]
    · simp [here]

theorem getPut (d : Disk) (p q : Path) (n : DiskNode) :
    (d.put p n).get? q = if q = p then some n else d.get? q := by
  by_cases same : q = p
  · subst same
    simp [get?, put]
  · have others : (d.put p n).get? q = (d.drop p).get? q := by
      simp [get?, put, drop, beq_false_of_ne (Ne.symm same)]
    rw [others, getDrop, if_neg same, if_neg same]

theorem unlinkOther (d : Disk) {p q : Path} (other : q ≠ p) : (d.unlink p).get? q = d.get? q := by
  unfold unlink
  split
  · rfl
  · rw [getDrop, if_neg other]

theorem unlinkGone {d : Disk} {p : Path} (file : d.isDir p = false) :
    (d.unlink p).get? p = none := by
  rw [unlink, file, if_neg Bool.false_ne_true, getDrop, if_pos rfl]

theorem writeCases {d next : Disk} {p : Path} {bytes : List UInt8}
    (wrote : d.write? p bytes = some next) :
    d.canHold p = true ∧ next = d.put p (.file bytes) := by
  unfold write? at wrote
  split at wrote
  · cases wrote
    exact ⟨by assumption, rfl⟩
  · cases wrote

theorem renameCases {d next : Disk} {source target : Path}
    (renamed : d.rename? source target = some next) :
    ∃ bytes, d.read? source = some bytes ∧
      next = (d.drop source).put target (.file bytes) := by
  unfold rename? at renamed
  split at renamed
  · exact ⟨_, by assumption, (writeCases renamed).2⟩
  · cases renamed

theorem readFile {d : Disk} {p : Path} {bytes : List UInt8} :
    d.read? p = some bytes ↔ d.get? p = some (.file bytes) := by
  unfold read?
  split <;> simp_all

theorem renameGoes {d : Disk} {source target : Path} {bytes : List UInt8}
    (held : d.get? source = some (.file bytes)) (free : (d.drop source).canHold target = true) :
    d.rename? source target = some ((d.drop source).put target (.file bytes)) := by
  rw [rename?, readFile.mpr held]
  simp [write?, free]

theorem makeOther {d : Disk} {ps : List Path} {q : Path} (other : q ∉ ps) :
    (d.makeEach ps).1.get? q = d.get? q := by
  induction ps generalizing d with
  | nil => rfl
  | cons p rest ih =>
    have later := List.not_mem_of_not_mem_cons other
    unfold makeEach
    split
    · exact ih later
    · split
      · rfl
      · rw [ih later, getPut, if_neg (List.ne_of_not_mem_cons other)]

theorem isDirMade {d : Disk} {ps : List Path} {q : Path} (dir : d.isDir q = true) :
    (d.makeEach ps).1.isDir q = true := by
  induction ps generalizing d with
  | nil => exact dir
  | cons p rest ih =>
    unfold makeEach
    split
    · exact ih dir
    · split
      · exact dir
      · refine ih ?_
        simp only [isDir, getPut, Bool.or_eq_true] at dir ⊢
        split
        · exact .inr rfl
        · exact dir

theorem madeDir {d : Disk} {ps : List Path} (made : (d.makeEach ps).2 = true) :
    ∀ p ∈ ps, (d.makeEach ps).1.isDir p = true := by
  induction ps generalizing d with
  | nil => nofun
  | cons p rest ih =>
    unfold makeEach at made ⊢
    split at made
    · rename_i dir
      rw [if_pos dir]
      exact List.forall_mem_cons.mpr ⟨isDirMade dir, ih made⟩
    · split at made
      · cases made
      · rename_i file free
        rw [if_neg file, if_neg free]
        have dir : (d.put p .dir).isDir p = true := by simp [isDir, getPut]
        exact List.forall_mem_cons.mpr ⟨isDirMade dir, ih made⟩

end Disk

namespace Path

theorem wayLength {p q : Path} (inside : q ∈ p.way) : 0 < q.length ∧ q.length ≤ p.length := by
  simp only [way, List.mem_map, List.mem_range] at inside
  obtain ⟨n, less, rfl⟩ := inside
  simp only [List.length_take]
  omega

theorem wayWhole {p : Path} (named : p ≠ []) : p ∈ p.way := by
  have longer := List.length_pos_iff.mpr named
  simp only [way, List.mem_map, List.mem_range]
  exact ⟨p.length - 1, by omega, List.take_of_length_le (by omega)⟩

theorem belowNamed {p : Path} {name : String} (long : 2 < name.length) :
    Path.isAbove (p ++ [name]) = false := by
  have root : name ≠ "/" := fun same => absurd (same ▸ long) (by decide)
  have up : name ≠ ".." := fun same => absurd (same ▸ long) (by decide)
  cases p <;> simp [isAbove, root, up]

theorem parentMade {d : Disk} {p : Path} (made : (d.makeDirs p).2 = true) :
    (d.makeDirs p).1.isDir p = true := by
  cases p with
  | nil => rfl
  | cons name rest => exact Disk.madeDir made _ (wayWhole (List.cons_ne_nil name rest))

end Path

end ChaincodeConsole
