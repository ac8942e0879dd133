/-!
Punycode: a label of any characters, written in letters and digits. The ASCII characters stand
first; behind a hyphen follow the others in ascending order, each as the distance from the one
before, in digits of base 36 whose weights adapt to the distances seen so far. Reading follows the
distances.
-/
namespace ChaincodeConsole.Text.Punycode

def digit (n : Nat) : Char := if n < 26 then Char.ofNat (97 + n) else Char.ofNat (22 + n)

/-- A digit below the threshold of its place is the last one. -/
def threshold (place bias : Nat) : Nat := min 26 (max 1 (place - bias))

def shrunk (delta place : Nat) : Nat :=
  if 455 < delta then shrunk (delta / 35) (place + 36) else place + 36 * delta / (delta + 38)
termination_by delta
decreasing_by omega

def adapted (delta placed : Nat) (first : Bool) : Nat :=
  let d := if first then delta / 700 else delta / 2
  shrunk (d + d / placed) 0

def digitsOf (bias place n : Nat) : List Char :=
  let t := threshold place bias
  if n < t then [digit n]
  else digit (t + (n - t) % (36 - t)) :: digitsOf bias (place + 36) ((n - t) / (36 - t))
termination_by n
decreasing_by
  have positive : 1 ≤ threshold place bias := by unfold threshold; omega
  exact Nat.lt_of_le_of_lt (Nat.div_le_self _ _) (by omega)

structure State where
  out : List Char
  delta : Nat
  bias : Nat
  placed : Nat

def pass (ascii code : Nat) (s : State) (c : Char) : State :=
  if c.toNat < code then { s with delta := s.delta + 1 }
  else if c.toNat = code then
    ⟨s.out ++ digitsOf s.bias 36 s.delta, 0,
      adapted s.delta (s.placed + 1) (s.placed == ascii), s.placed + 1⟩
  else s

def place (label : List Char) (ascii : Nat) : List Nat → Nat → State → State
  | [], _, s => s
  | code :: rest, next, s =>
    let s := { s with delta := s.delta + (code - next) * (s.placed + 1) }
    let s := label.foldl (pass ascii code) s
    place label ascii rest (code + 1) { s with delta := s.delta + 1 }

def encode (label : List Char) : List Char :=
  let ascii := label.filter (·.toNat < 128)
  let codes := ((label.filter (128 ≤ ·.toNat)).map Char.toNat).eraseDups.mergeSort (· ≤ ·)
  let written := place label ascii.length codes 128 ⟨[], 0, 72, ascii.length⟩
  ascii ++ (if ascii.isEmpty then [] else ['-']) ++ written.out

/-! Reading. -/

def digit? (c : Char) : Option Nat :=
  if c.isLower then some (c.toNat - 97) else if c.isDigit then some (c.toNat - 22) else none

def number? (bias : Nat) (value weight place : Nat) : List Char → Option (Nat × List Char)
  | [] => none
  | c :: r =>
    match digit? c with
    | none => none
    | some d =>
      let t := threshold place bias
      if d < t then some (value + d * weight, r)
      else number? bias (value + d * weight) (weight * (36 - t)) (place + 36) r

/-- A label under reading. The next character's place and code are told as a distance from these. -/
structure Filling where
  held : List Char
  code : Nat
  place : Nat
  bias : Nat
  first : Bool
  deriving DecidableEq, Repr

def Filling.put? (f : Filling) (delta : Nat) : Option Filling :=
  let placed := f.held.length + 1
  let code := f.code + (f.place + delta) / placed
  let there := (f.place + delta) % placed
  if code.isValidChar then
    some ⟨f.held.take there ++ Char.ofNat code :: f.held.drop there, code, there + 1,
      adapted delta placed f.first, false⟩
  else none

def fill? : Nat → Filling → List Char → Option (List Char)
  | _, f, [] => some f.held
  | 0, _, _ :: _ => none
  | fuel + 1, f, cs => do
    let (delta, r) ← number? f.bias 0 1 36 cs
    fill? fuel (← f.put? delta) r

def decode? (cs : List Char) : Option (List Char) :=
  let digits := (cs.reverse.takeWhile (· != '-')).reverse
  let ascii := cs.take (cs.length - digits.length - 1)
  let read (ascii digits : List Char) := fill? cs.length ⟨ascii, 128, 0, 72, true⟩ digits
  if ascii.isEmpty then read [] cs
  else if ascii.all (·.toNat < 128) then read ascii digits else none

end ChaincodeConsole.Text.Punycode
