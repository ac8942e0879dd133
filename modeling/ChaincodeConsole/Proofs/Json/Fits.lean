import ChaincodeConsole.Proofs.Json.Members
import ChaincodeConsole.Proofs.Json.Previews

/-! What a value is like that was read: its numbers lie in their ranges, the members of an object
stand in the order of their keys, and it nests no deeper than the reader had room for. -/
namespace ChaincodeConsole

def Number.Fits : Number → Prop
  | .natural n => n ≤ Json.significandLimit
  | .negative n => n ≠ 0 ∧ n ≤ 9223372036854775808
  | .floating _ => True

namespace Json

open Reader

inductive Fits : Nat → Json → Prop where
  | null {room : Nat} : Fits room .null
  | bool {room : Nat} {b : Bool} : Fits room (.bool b)
  | number {room : Nat} {n : Number} (fits : n.Fits) : Fits room (.number n)
  | string {room : Nat} {s : String} : Fits room (.string s)
  | array {room : Nat} {items : List Json} (each : ∀ v ∈ items, Fits room v) :
      Fits (room + 1) (.array items)
  | object {room : Nat} {members : List (String × Json)} (each : ∀ m ∈ members, Fits room m.2)
      (ordered : Ordered members) : Fits (room + 1) (.object members)

theorem fitsMore {room more : Nat} {v : Json} (fits : Fits room v) (less : room ≤ more) :
    Fits more v := by
  induction fits generalizing more with
  | null => exact .null
  | bool => exact .bool
  | number fits => exact .number fits
  | string => exact .string
  | array _ ih =>
    obtain ⟨more, rfl⟩ : ∃ k, more = k + 1 := ⟨more - 1, by omega⟩
    exact .array fun v inside => ih v inside (by omega)
  | object _ ordered ih =>
    obtain ⟨more, rfl⟩ : ∃ k, more = k + 1 := ⟨more - 1, by omega⟩
    exact .object (fun m inside => ih m inside (by omega)) ordered

def roomAbove (s : List Frame) : Nat := depthLimit - s.length

def Frame.Fits (room : Nat) : Frame → Prop
  | .list items => ∀ v ∈ items, v.Fits room
  | .record members | .member members _ => (∀ m ∈ members, m.2.Fits room) ∧ Ordered members

def StackFits : List Frame → Prop
  | [] => True
  | frame :: s => s.length < depthLimit ∧ frame.Fits (roomAbove (frame :: s)) ∧ StackFits s

def Mode.Fits : Mode → Prop
  | .done v => v.Fits depthLimit
  | .word _ v => v.Fits 0
  | .number n => ∃ length, n.Bounded length
  | _ => True

structure Reader.Fits (r : Reader) : Prop where
  mode : r.mode.Fits
  stack : StackFits r.stack

theorem roomInside {frame : Frame} {s : List Frame} (deep : s.length < depthLimit) :
    roomAbove s = roomAbove (frame :: s) + 1 := by
  simp only [roomAbove, List.length_cons]
  omega

theorem deliverFits {v : Json} {s : List Frame} (fits : v.Fits (roomAbove s))
    (stack : StackFits s) : (deliver v s).Fits := by
  cases s with
  | nil => exact ⟨fits, trivial⟩
  | cons frame s =>
    obtain ⟨deep, held, below⟩ := stack
    cases frame with
    | list items =>
      exact ⟨trivial, deep, List.forall_mem_cons.mpr ⟨fits, held⟩, below⟩
    | record members => exact ⟨trivial, deep, held, below⟩
    | member members key =>
      refine ⟨trivial, deep, ⟨fun m inside => ?_, orderedInsert held.2 key v⟩, below⟩
      rcases insertedMember inside with rfl | earlier
      · exact fits
      · exact held.1 m earlier

theorem emptyFits {v : Json} {s : List Frame} (empty : ∀ room, v.Fits (room + 1))
    (stack : StackFits s) : (deliver v s.tail).Fits := by
  cases s with
  | nil => exact deliverFits (empty 126) trivial
  | cons frame s =>
    obtain ⟨deep, -, below⟩ := stack
    refine deliverFits ?_ below
    have room : roomAbove s = roomAbove (frame :: s) + 1 := roomInside deep
    exact room ▸ empty _

theorem listFits {items : List Json} {s : List Frame} (stack : StackFits (.list items :: s)) :
    (deliver (.array items.reverse) s).Fits := by
  obtain ⟨deep, held, below⟩ := stack
  refine deliverFits ?_ below
  rw [roomInside deep]
  exact .array fun v inside => held v (List.mem_reverse.mp inside)

theorem recordFits {members : List (String × Json)} {s : List Frame}
    (stack : StackFits (.record members :: s)) : (deliver (.object members) s).Fits := by
  obtain ⟨deep, held, below⟩ := stack
  refine deliverFits ?_ below
  rw [roomInside deep]
  exact .object held.1 held.2

theorem floatingFits {n : Numeral} {e : Int} {x : Number} (value : n.floating e = .ok x) :
    x.Fits := by
  unfold Numeral.floating at value
  split at value
  · cases value
    trivial
  · cases value

theorem numberFits {n : Numeral} {length : Nat} {x : Number} (bounded : n.Bounded length)
    (value : n.value? = some (.ok x)) : x.Fits := by
  have whole : n.integer.Fits := by
    unfold Numeral.integer
    split
    · exact bounded.1
    · split
      · assumption
      · trivial
  unfold Numeral.value? at value
  split at value <;> simp only [Option.some.injEq, Except.ok.injEq, reduceCtorEq] at value
  · exact value ▸ whole
  · exact value ▸ whole
  · exact floatingFits value
  · exact floatingFits value
  · exact floatingFits value
  · exact floatingFits value
  · subst value
    trivial

theorem openedBounded {c : Char} {n : Numeral} (opened : Numeral.open? c = some n) :
    n.Bounded 1 := Numeral.readsBounded (.first opened)

theorem moveFits {r next : Reader} {c : Char} (move : Move r c next) (fits : r.Fits)
    (room : r.mode.wants = true → c = '{' ∨ c = '[' → r.stack.length < depthLimit) :
    next.Fits := by
  induction move with
  | space => exact fits
  | openObject free =>
    exact ⟨trivial, room free (.inl rfl), ⟨nofun, List.Pairwise.nil⟩, fits.stack⟩
  | openList free => exact ⟨trivial, room free (.inr rfl), nofun, fits.stack⟩
  | openWord free known =>
    refine ⟨?_, fits.stack⟩
    simp only [literals, List.mem_cons, Prod.mk.injEq, List.not_mem_nil, or_false] at known
    rcases known with ⟨-, -, rfl⟩ | ⟨-, -, rfl⟩ | ⟨-, -, rfl⟩
    · exact .bool
    · exact .bool
    · exact .null
  | openNumber free opened => exact ⟨⟨1, openedBounded opened⟩, fits.stack⟩
  | emptyList => exact emptyFits (fun _ => .array nofun) fits.stack
  | emptyObject => exact emptyFits (fun _ => .object nofun List.Pairwise.nil) fits.stack
  | colon => exact ⟨trivial, fits.stack⟩
  | closeList => exact listFits fits.stack
  | closeObject => exact recordFits fits.stack
  | @closeText forKey held s =>
    cases forKey with
    | true => exact ⟨trivial, fits.stack⟩
    | false => exact deliverFits .string fits.stack
  | word more => exact ⟨fits.mode, fits.stack⟩
  | wordEnd | wordNone => exact deliverFits (fitsMore fits.mode (Nat.zero_le _)) fits.stack
  | number more =>
    obtain ⟨length, bounded⟩ := fits.mode
    exact ⟨⟨length + 1, Numeral.boundedExtends bounded (Numeral.stepExtends more)⟩, fits.stack⟩
  | @past n x c s r past value move ih =>
    obtain ⟨length, bounded⟩ := fits.mode
    refine ih (deliverFits (.number (numberFits bounded value)) fits.stack) fun free => ?_
    rcases deliverMode (.number x) s with same | same <;> rw [same] at free <;> cases free
  | _ => exact ⟨trivial, fits.stack⟩

theorem openRoom {r next : Reader} {c : Char} (ok : r.step c = .ok next)
    (free : r.mode.wants = true) (opens : c = '{' ∨ c = '[') : r.stack.length < depthLimit := by
  obtain ⟨mode, s⟩ := r
  by_contra full
  have shut (m : Mode) (frame : Frame) : openContainer m frame s = .error ⟨.tooDeep, 1⟩ :=
    if_neg full
  cases mode with
  | value | firstItem | item =>
    rcases opens with rfl | rfl <;>
      simp [step, plainStep, isSpace, openValue, shut] at ok
  | _ => cases free

theorem fitsRun {cs : List Char} {k : Reader} (read : start.run cs = .ok k) : k.Fits := by
  induction cs using List.reverseRecOn generalizing k with
  | nil =>
    cases read
    exact ⟨trivial, trivial⟩
  | append_singleton cs c ih =>
    obtain ⟨m, first, last⟩ := runSplits read
    rw [runOne] at last
    exact moveFits (stepMove last) (ih first) (openRoom last)

theorem readFits {text : String} {v : Json} (accepted : ofText? text = some v) :
    v.Fits depthLimit := by
  obtain ⟨k, read, ended⟩ := textAccepted.mp accepted
  have fits := fitsRun read
  rcases endCases ended with done | ⟨n, x, number, value, done⟩
  · have mode := fits.mode
    rwa [done] at mode
  · have mode := fits.mode
    rw [number] at mode
    obtain ⟨length, bounded⟩ := mode
    have delivered := (deliverFits (.number (numberFits bounded value)) fits.stack).mode
    rwa [done] at delivered

end Json
end ChaincodeConsole
