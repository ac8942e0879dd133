import ChaincodeConsole.Proofs.Json.Paths
import ChaincodeConsole.Proofs.Json.Previews
import Mathlib.Data.List.Infix

/-! What has arrived stays. A value that an open container holds is held after every further
character, until the document is whole and has it at its place, if no key comes twice. -/
namespace ChaincodeConsole.Json

namespace Reader

def Kept (r : Reader) (path : List Place) (w : Json) : Prop :=
  match r.mode with
  | .done v => at? path v = some w
  | _ => Holds r.stack path w

def newKey (r : Reader) : Bool :=
  match r.mode, r.stack with
  | .colon name, .record members :: _ => (member? name members).isNone
  | _, _ => true

theorem keptDeliver {s : List Frame} {path : List Place} {w : Json} (held : Holds s path w)
    (v : Json) : Kept (deliver v s) path w := by
  cases held with
  | @here frame s place rest u w held inner =>
    cases frame with
    | list items =>
      cases place with
      | key name => cases held
      | item index =>
        have still : (Frame.list (v :: items)).holds? (.item index) = some u := by
          simp only [Frame.holds?] at held
          have inside : index < items.reverse.length := (List.getElem?_eq_some_iff.mp held).1
          simp only [Frame.holds?, List.reverse_cons, List.getElem?_append_left inside, held]
        exact .here still inner
    | record members => exact .here held inner
    | member members key =>
      cases place with
      | item index => cases held
      | key name =>
        simp only [Frame.holds?] at held
        split at held
        · cases held
        · rename_i other
          have still : (Frame.record (insertMember key v members)).holds? (.key name) =
              some u := by simp only [Frame.holds?, memberKept other, held]
          exact .here still inner
  | @outer frame s path w held => cases frame <;> exact .outer held

theorem keptAt {s : List Frame} {rest : List Place} {v w : Json} (waiting : Waiting s)
    (inner : at? rest v = some w) : Kept (deliver v s) (pathOf s ++ rest) w := by
  cases s with
  | nil => exact inner
  | cons frame s =>
    rw [pathOf, List.append_assoc]
    cases frame with
    | list items =>
      have there : (Frame.list (v :: items)).holds? (.item items.length) = some v := by
        simp [Frame.holds?]
      exact .here there inner
    | record members => exact absurd rfl (waiting _ List.mem_cons_self members)
    | member members key =>
      have there : (Frame.record (insertMember key v members)).holds? (.key key) = some v := by
        simp [Frame.holds?, memberInserted]
      exact .here there inner

/-- Every container waits for a value, but the innermost one in which a key or what follows a
member is read. -/
def Slotted (r : Reader) : Prop :=
  match r.mode with
  | .firstKey | .key | .colon _ | .text true _ _ | .next => Waiting r.stack.tail
  | _ => Waiting r.stack

theorem waitingCons {frame : Frame} {s : List Frame} (waits : ∀ members, frame ≠ .record members)
    (waiting : Waiting s) : Waiting (frame :: s) := by
  intro other member
  rcases List.mem_cons.mp member with rfl | inner
  · exact waits
  · exact waiting other inner

theorem slottedDeliver {s : List Frame} (waiting : Waiting s.tail) (v : Json) :
    (deliver v s).Slotted := by
  cases s with
  | nil => exact waiting
  | cons frame s => cases frame <;> exact waiting

theorem slottedWants {m : Mode} {s : List Frame} (slotted : Slotted ⟨m, s⟩)
    (free : m.wants = true) : Waiting s := by
  cases m <;> first | exact slotted | cases free

theorem slottedMove {r next : Reader} {c : Char} (move : Move r c next) (slotted : r.Slotted) :
    next.Slotted := by
  induction move with
  | space => exact slotted
  | openObject free | openText free | openWord free | openNumber free =>
    exact slottedWants slotted free
  | openList free => exact waitingCons nofun (slottedWants slotted free)
  | @openKey m s free =>
    cases m with
    | firstKey => exact slotted
    | key => exact slotted
    | _ => cases free
  | emptyList => exact slottedDeliver (waitingRest (waitingRest slotted)) _
  | emptyObject => exact slottedDeliver (waitingRest slotted) _
  | colon | nextItem => exact waitingCons nofun slotted
  | nextKey => exact slotted
  | closeList | closeObject => exact slottedDeliver (waitingRest slotted) _
  | wordEnd | wordNone => exact slottedDeliver (waitingRest slotted) _
  | @closeText forKey held s =>
    cases forKey with
    | true => exact slotted
    | false => exact slottedDeliver (waitingRest slotted) _
  | @spell forKey => cases forKey <;> exact slotted
  | word | number => exact slotted
  | past _ _ _ ih => exact ih (slottedDeliver (waitingRest slotted) _)

theorem keptClose {frame : Frame} {s : List Frame} {path : List Place} {v w : Json}
    (waiting : Waiting s) (held : Holds (frame :: s) path w)
    (same : ∀ place u, frame.holds? place = some u → at? [place] v = some u) :
    Kept (deliver v s) path w := by
  cases held with
  | @here _ _ place rest u _ held inner =>
    refine keptAt waiting ?_
    rw [← List.singleton_append, atAppend, same place u held, Option.bind_some, inner]
  | outer held => exact keptDeliver held v

theorem keptWants {m : Mode} {s : List Frame} {path : List Place} {w : Json}
    (kept : Kept ⟨m, s⟩ path w) (free : m.wants = true ∨ m.wantsKey = true) : Holds s path w := by
  cases m <;> first | exact kept | simp [Mode.wants, Mode.wantsKey] at free

theorem newKeyDeliver (v : Json) (s : List Frame) : (deliver v s).newKey = true := by
  unfold newKey
  rcases deliverMode v s with mode | mode <;> rw [mode]

theorem keptMove {r next : Reader} {c : Char} {path : List Place} {w : Json} (move : Move r c next)
    (slotted : r.Slotted) (shaped : r.Shaped) (fresh : r.newKey = true) (kept : r.Kept path w) :
    next.Kept path w := by
  induction move with
  | space => exact kept
  | openObject free | openList free => exact .outer (keptWants kept (.inl free))
  | openText free | openWord free | openNumber free => exact keptWants kept (.inl free)
  | openKey free => exact keptWants kept (.inr free)
  | emptyList =>
    obtain ⟨s, ⟨⟩⟩ := shaped
    exact keptClose (waitingRest slotted) kept (listHolds [])
  | emptyObject =>
    obtain ⟨s, ⟨⟩⟩ := shaped
    exact keptClose slotted kept (recordHolds [])
  | colon => exact holdsAwaiting kept (.inl (Option.isNone_iff_eq_none.mp fresh))
  | closeList => exact keptClose slotted kept (listHolds _)
  | closeObject => exact keptClose slotted kept (recordHolds _)
  | @closeText forKey held s =>
    cases forKey with
    | true => exact kept
    | false => exact keptDeliver kept _
  | nextItem | nextKey | spell | word | number => exact kept
  | wordEnd | wordNone => exact keptDeliver kept _
  | past _ _ _ ih =>
    exact ih (slottedDeliver (waitingRest slotted) _) (shapedDeliver _ _) (newKeyDeliver _ _)
      (keptDeliver kept _)

theorem slottedRun {cs : List Char} {k : Reader} (read : start.run cs = .ok k) (sound : k.Sound) :
    k.Slotted :=
  soundRun (P := fun _ r => r.Slotted) nofun
    (fun _ _ _ _ slotted _ move _ => slottedMove move slotted) read sound

end Reader

/-- No object of a text has a key twice: a key that has been read is none of its object's. -/
def DistinctKeys (text : List Char) : Prop :=
  ∀ front r, front <+: text → Reader.start.run front = .ok r → r.newKey = true

theorem distinctKeysIff (text : List Char) : DistinctKeys text ↔ ∀ front ∈ text.inits,
    (match Reader.start.run front with
      | .ok r => r.newKey
      | .error _ => true) = true := by
  constructor
  · intro distinct front member
    cases read : Reader.start.run front with
    | error stop => rfl
    | ok r => exact distinct front r ((List.mem_inits front text).mp member) read
  · intro all front r begins read
    have new := all front ((List.mem_inits front text).mpr begins)
    rwa [read] at new

instance (text : List Char) : Decidable (DistinctKeys text) :=
  decidable_of_iff _ (distinctKeysIff text).symm

-- Keys are compared as they read, however they are spelled.
example : ¬DistinctKeys "\x7b\"a\":1,\"\\u0061\":2\x7d".toList := by decide

open Reader

theorem keptRun {text front rest : List Char} {r k : Reader} {path : List Place} {w : Json}
    (distinct : DistinctKeys text) (begins : front ++ rest <+: text)
    (read : start.run front = .ok r) (ok : r.run rest = .ok k) (sound : k.Sound)
    (kept : r.Kept path w) : k.Kept path w := by
  induction rest generalizing front r with
  | nil =>
    cases ok
    exact kept
  | cons c rest ih =>
    have earlier := soundEarlier read ok sound
    obtain ⟨m, first, move, later⟩ := runCons ok
    have longer : start.run (front ++ [c]) = .ok m := (runAppend read [c]).trans first
    have fresh := distinct front r ((List.prefix_append front (c :: rest)).trans begins) read
    refine ih (by rwa [List.append_assoc]) longer later ?_
    exact keptMove move (slottedRun read earlier) (shapedRun read earlier) fresh kept

theorem keptEnd {r : Reader} {path : List Place} {v w : Json} (kept : r.Kept path w)
    (ended : r.atEnd = .ok v) : at? path v = some w := by
  obtain ⟨mode, s⟩ := r
  rcases endCases ended with mode | ⟨n, x, mode, -, delivered⟩
  · simp only at mode
    subst mode
    exact kept
  · simp only at mode delivered
    subst mode
    have after := keptDeliver kept (.number x)
    unfold Kept at after
    rwa [delivered] at after

end ChaincodeConsole.Json
