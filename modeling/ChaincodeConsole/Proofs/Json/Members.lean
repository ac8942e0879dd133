import ChaincodeConsole.Proofs.Json.Paths

/-! The members of an object, held in the order of their keys. A member that is inserted finds its
place in that order, so members that come in it stay as they are, and members with keys of their
own can be looked up in whatever order they came. -/
namespace ChaincodeConsole.Json

def Ordered (members : List (String × Json)) : Prop := members.Pairwise (·.1 < ·.1)

def gathered (held members : List (String × Json)) : List (String × Json) :=
  members.foldl (fun held (key, v) => insertMember key v held) held

@[simp] theorem gatheredCons (held members : List (String × Json)) (key : String) (v : Json) :
    gathered held ((key, v) :: members) = gathered (insertMember key v held) members := rfl

theorem insertedMember {key : String} {v : Json} {members : List (String × Json)}
    {m : String × Json} (inside : m ∈ insertMember key v members) : m = (key, v) ∨ m ∈ members := by
  induction members with
  | nil => simpa [insertMember] using inside
  | cons head members ih =>
    unfold insertMember at inside
    split at inside
    · rw [List.mem_cons] at inside
      exact inside.imp_right (List.mem_cons_of_mem _)
    · split at inside
      · rwa [List.mem_cons] at inside
      · rcases List.mem_cons.mp inside with rfl | rest
        · exact .inr List.mem_cons_self
        · exact (ih rest).imp_right (List.mem_cons_of_mem _)

theorem orderedInsert {members : List (String × Json)} (ordered : Ordered members) (key : String)
    (v : Json) : Ordered (insertMember key v members) := by
  induction members with
  | nil => exact List.pairwise_singleton _ _
  | cons head members ih =>
    obtain ⟨k, w⟩ := head
    obtain ⟨first, rest⟩ := List.pairwise_cons.mp ordered
    unfold insertMember
    split
    · rename_i same
      subst same
      exact List.pairwise_cons.mpr ⟨first, rest⟩
    · split
      · rename_i before
        refine List.pairwise_cons.mpr ⟨fun m inside => ?_, ordered⟩
        rcases List.mem_cons.mp inside with rfl | later
        · exact before
        · exact String.lt_trans before (first m later)
      · rename_i other behind
        refine List.pairwise_cons.mpr ⟨fun m inside => ?_, ih rest⟩
        rcases insertedMember inside with rfl | later
        · by_contra more
          exact other (String.le_antisymm (String.not_lt.mp more) (String.not_lt.mp behind))
        · exact first m later

theorem orderedGathered {held : List (String × Json)} (ordered : Ordered held)
    (members : List (String × Json)) : Ordered (gathered held members) := by
  induction members generalizing held with
  | nil => exact ordered
  | cons head members ih => exact ih (orderedInsert ordered head.1 head.2)

theorem insertLast {members : List (String × Json)} {key : String}
    (last : ∀ m ∈ members, m.1 < key) (v : Json) :
    insertMember key v members = members ++ [(key, v)] := by
  induction members with
  | nil => rfl
  | cons head members ih =>
    obtain ⟨k, w⟩ := head
    have before : k < key := last (k, w) List.mem_cons_self
    have other : key ≠ k := by
      rintro rfl
      exact String.lt_irrefl _ before
    have behind : ¬ key < k := fun less => String.lt_irrefl _ (String.lt_trans before less)
    rw [insertMember, if_neg other, if_neg behind, ih fun m inside =>
      last m (List.mem_cons_of_mem _ inside)]
    rfl

theorem gatheredOrdered {held members : List (String × Json)}
    (ordered : Ordered (held ++ members)) : gathered held members = held ++ members := by
  induction members generalizing held with
  | nil => exact (List.append_nil held).symm
  | cons head members ih =>
    obtain ⟨key, v⟩ := head
    have last : ∀ m ∈ held, m.1 < key := fun m inside =>
      (List.pairwise_append.mp ordered).2.2 m inside (key, v) List.mem_cons_self
    have next : insertMember key v held = held ++ [(key, v)] := insertLast last v
    rw [gatheredCons, next, ih (by simpa using ordered), List.append_assoc, List.singleton_append]

theorem memberNone {key : String} {members : List (String × Json)}
    (absent : key ∉ members.map Prod.fst) : member? key members = none := by
  induction members with
  | nil => rfl
  | cons head members ih =>
    obtain ⟨k, v⟩ := head
    simp only [List.map_cons, List.mem_cons, not_or] at absent
    rw [member?, if_neg (Ne.symm absent.1), ih absent.2]

theorem memberHeld {key : String} {members : List (String × Json)}
    (inside : key ∈ members.map Prod.fst) : ∃ v, member? key members = some v := by
  induction members with
  | nil => cases inside
  | cons head members ih =>
    obtain ⟨k, v⟩ := head
    rw [member?]
    split
    · exact ⟨v, rfl⟩
    · rename_i other
      exact ih ((List.mem_cons.mp inside).resolve_left (Ne.symm other))

theorem memberInside {key : String} {v : Json} {members : List (String × Json)}
    (found : member? key members = some v) : (key, v) ∈ members := by
  induction members with
  | nil => cases found
  | cons head members ih =>
    obtain ⟨k, w⟩ := head
    rw [member?] at found
    split at found
    · rename_i same
      cases found
      subst same
      exact List.mem_cons_self
    · exact List.mem_cons_of_mem _ (ih found)

@[simp] theorem memberAppend (key : String) (a b : List (String × Json)) :
    member? key (a ++ b) = (member? key a).or (member? key b) := by
  induction a with
  | nil => rfl
  | cons head a ih =>
    obtain ⟨k, v⟩ := head
    rw [List.cons_append, member?, member?, ih]
    split <;> rfl

theorem memberGatheredInto {members : List (String × Json)} (held : List (String × Json))
    (distinct : (members.map Prod.fst).Nodup) (key : String) :
    member? key (gathered held members) = (member? key members).or (member? key held) := by
  induction members generalizing held with
  | nil => rfl
  | cons head members ih =>
    obtain ⟨k, v⟩ := head
    obtain ⟨fresh, rest⟩ := List.nodup_cons.mp distinct
    rw [gatheredCons, ih _ rest, member?]
    by_cases same : k = key
    · subst same
      rw [if_pos rfl, memberNone fresh, memberInserted]
      rfl
    · rw [if_neg same, memberKept (Ne.symm same)]

theorem memberGathered {members : List (String × Json)}
    (distinct : (members.map Prod.fst).Nodup) (key : String) :
    member? key (gathered [] members) = member? key members := by
  rw [memberGatheredInto [] distinct, member?, Option.or_none]

theorem orderedDistinct {members : List (String × Json)} (ordered : Ordered members) :
    (members.map Prod.fst).Nodup := by
  rw [List.Nodup, List.pairwise_map]
  refine ordered.imp fun {a b} less same => ?_
  rw [same] at less
  exact String.lt_irrefl _ less

end ChaincodeConsole.Json
