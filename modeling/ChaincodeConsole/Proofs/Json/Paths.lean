import ChaincodeConsole.Proofs.Json.Runs

/-! Places in a value, as paths from the root, and in the containers that are open in reading. A
member or item that an open container holds stays at its place when the containers end. -/
namespace ChaincodeConsole.Json

inductive Place where
  | key (name : String)
  | item (index : Nat)
  deriving DecidableEq, Repr

def at? : List Place → Json → Option Json
  | [], v => some v
  | .key name :: path, .object members => (member? name members).bind (at? path)
  | .item index :: path, .array items => items[index]?.bind (at? path)
  | _, _ => none

theorem atAppend (path rest : List Place) (v : Json) :
    at? (path ++ rest) v = (at? path v).bind (at? rest) := by
  induction path generalizing v with
  | nil => rfl
  | cons place path ih =>
    rw [List.cons_append]
    cases place with
    | key name =>
      cases v with
      | object members =>
        simp only [at?]
        cases member? name members with
        | none => rfl
        | some w => exact ih w
      | _ => rfl
    | item index =>
      cases v with
      | array items =>
        simp only [at?]
        cases items[index]? with
        | none => rfl
        | some w => exact ih w
      | _ => rfl

theorem memberInserted (key : String) (v : Json) (members : List (String × Json)) :
    member? key (insertMember key v members) = some v := by
  induction members with
  | nil => simp [insertMember, member?]
  | cons head members ih =>
    obtain ⟨k, w⟩ := head
    unfold insertMember
    split
    · simp [member?]
    · split
      · simp [member?]
      · rename_i other _
        simp [member?, Ne.symm other, ih]

theorem memberKept {key name : String} (other : name ≠ key) (v : Json)
    (members : List (String × Json)) :
    member? name (insertMember key v members) = member? name members := by
  induction members with
  | nil => simp [insertMember, member?, other.symm]
  | cons head members ih =>
    obtain ⟨k, w⟩ := head
    unfold insertMember
    split
    · rename_i same
      subst same
      simp [member?, other.symm]
    · split
      · simp [member?, other.symm]
      · simp only [member?, ih]

def Frame.slot : Frame → List Place
  | .list items => [.item items.length]
  | .member _ name => [.key name]
  | .record _ => []

/-- What an open container holds at a place, other than the one it waits for. -/
def Frame.holds? : Frame → Place → Option Json
  | .list items, .item index => items.reverse[index]?
  | .record members, .key name => member? name members
  | .member members key, .key name => if name = key then none else member? name members
  | _, _ => none

def pathOf : List Frame → List Place
  | [] => []
  | frame :: s => pathOf s ++ frame.slot

inductive Holds : List Frame → List Place → Json → Prop where
  | here {frame : Frame} {s : List Frame} {place : Place} {rest : List Place} {v w : Json}
      (held : frame.holds? place = some v) (inner : at? rest v = some w) :
      Holds (frame :: s) (pathOf s ++ place :: rest) w
  | outer {frame : Frame} {s : List Frame} {path : List Place} {w : Json}
      (held : Holds s path w) : Holds (frame :: s) path w

def Waiting (s : List Frame) : Prop := ∀ frame ∈ s, ∀ members, frame ≠ .record members

def Frame.close (v : Json) : Frame → Json
  | .list items => .array (v :: items).reverse
  | .record members => .object members
  | .member members key => .object (insertMember key v members)

theorem closeFramesCons (v : Json) (frame : Frame) (s : List Frame) :
    Reader.closeFrames v (frame :: s) = Reader.closeFrames (frame.close v) s := by
  cases frame <;> rfl

theorem closeAt {frame : Frame} (waits : ∀ members, frame ≠ .record members) (v : Json) :
    at? frame.slot (frame.close v) = some v := by
  cases frame with
  | list items => simp [Frame.slot, Frame.close, at?]
  | record members => exact absurd rfl (waits members)
  | member members key => simp [Frame.slot, Frame.close, at?, memberInserted]

theorem closeHolds {frame : Frame} {place : Place} {w : Json}
    (held : frame.holds? place = some w) (v : Json) : at? [place] (frame.close v) = some w := by
  cases frame with
  | list items =>
    cases place with
    | key name => cases held
    | item index =>
      simp only [Frame.holds?] at held
      have inside : index < items.reverse.length := (List.getElem?_eq_some_iff.mp held).1
      simp only [Frame.close, at?, List.reverse_cons, List.getElem?_append_left inside, held]
      rfl
  | record members =>
    cases place with
    | key name =>
      simp only [Frame.holds?] at held
      simp only [Frame.close, at?, held]
      rfl
    | item index => cases held
  | member members key =>
    cases place with
    | key name =>
      simp only [Frame.holds?] at held
      split at held
      · cases held
      · rename_i other
        simp only [Frame.close, at?, memberKept other, held]
        rfl
    | item index => cases held

theorem waitingRest {s : List Frame} (waiting : Waiting s) : Waiting s.tail :=
  fun frame member => waiting frame (List.mem_of_mem_tail member)

theorem closeFramesAt {s : List Frame} (waiting : Waiting s) (v : Json) :
    at? (pathOf s) (Reader.closeFrames v s) = some v := by
  induction s generalizing v with
  | nil => rfl
  | cons frame s ih =>
    rw [closeFramesCons, pathOf, atAppend, ih (waitingRest waiting), Option.bind_some]
    exact closeAt (waiting frame List.mem_cons_self) v

theorem closeFramesInner {s : List Frame} {place : Place} {rest : List Place} {u v w : Json}
    (waiting : Waiting s) (there : at? [place] v = some u) (inner : at? rest u = some w) :
    at? (pathOf s ++ place :: rest) (Reader.closeFrames v s) = some w := by
  rw [atAppend, closeFramesAt waiting, Option.bind_some, ← List.singleton_append, atAppend, there,
    Option.bind_some, inner]

theorem closeFramesHolds {s : List Frame} {path : List Place} {w : Json} (waiting : Waiting s.tail)
    (held : Holds s path w) (v : Json) : at? path (Reader.closeFrames v s) = some w := by
  induction held generalizing v with
  | here held inner =>
    rw [closeFramesCons]
    exact closeFramesInner waiting (closeHolds held v) inner
  | outer held ih =>
    rw [closeFramesCons]
    exact ih (waitingRest waiting) _

theorem closeFramesKeeps {frame : Frame} {s : List Frame} {path : List Place} {v w : Json}
    (waiting : Waiting s) (held : Holds (frame :: s) path w)
    (same : ∀ place u, frame.holds? place = some u → at? [place] v = some u) :
    at? path (Reader.closeFrames v s) = some w := by
  cases held with
  | here held inner => exact closeFramesInner waiting (same _ _ held) inner
  | outer held => exact closeFramesHolds (waitingRest waiting) held v

theorem listHolds (items : List Json) : ∀ place u, (Frame.list items).holds? place = some u →
    at? [place] (.array items.reverse) = some u := by
  intro place u held
  cases place with
  | key name => cases held
  | item index =>
    simp only [Frame.holds?] at held
    simp only [at?, held]
    rfl

theorem recordHolds (members : List (String × Json)) : ∀ place u,
    (Frame.record members).holds? place = some u → at? [place] (.object members) = some u := by
  intro place u held
  cases place with
  | item index => cases held
  | key name =>
    simp only [Frame.holds?] at held
    simp only [at?, held]
    rfl

theorem holdsAwaiting {name : String} {members : List (String × Json)} {s : List Frame}
    {path : List Place} {w : Json} (held : Holds (.record members :: s) path w)
    (other : member? name members = none ∨ ¬(pathOf s ++ [.key name] <+: path)) :
    Holds (.member members name :: s) path w := by
  cases held with
  | @here _ _ place rest u _ held inner =>
    cases place with
    | item index => cases held
    | key key =>
      have different : key ≠ name := by
        rintro rfl
        rcases other with fresh | beside
        · cases fresh.symm.trans held
        · exact beside ⟨rest, by simp⟩
      have still : (Frame.member members name).holds? (.key key) = some u := by
        simp only [Frame.holds?, if_neg different]
        exact held
      exact .here still inner
  | outer held => exact .outer held

end ChaincodeConsole.Json
