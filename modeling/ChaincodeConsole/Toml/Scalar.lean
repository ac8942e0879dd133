import ChaincodeConsole.Decimal.Binary64
import ChaincodeConsole.Time.Date
import ChaincodeConsole.Toml.Basic
import ChaincodeConsole.Toml.Text

/-!
Numbers, dates and truth values of TOML. A text that begins like a date is one or is wrong;
otherwise the longest number is taken. Underscores may stand between digits.
-/
namespace ChaincodeConsole.Toml

abbrev Parsed := Option (Value × Rest)

def digitsOf (count : Nat) (cs : Rest) : Option (Nat × Rest) :=
  let ds := cs.take count
  if ds.length = count ∧ ds.all Char.isDigit then
    some (ds.foldl (fun n c => n * 10 + (c.toNat - 48)) 0, cs.drop count)
  else none

def digitsWithin (count low high : Nat) (cs : Rest) : Option Rest :=
  match digitsOf count cs with
  | some (n, r) => if low ≤ n ∧ n ≤ high then some r else none
  | none => none

def mark? (c : Char) : Rest → Option Rest
  | d :: r => if d = c then some r else none
  | [] => none

def timeRest? (cs : Rest) : Option Rest := do
  let r ← digitsWithin 2 0 59 cs
  let r ← mark? ':' r
  let r ← digitsWithin 2 0 60 r
  match r with
  | '.' :: c :: r => if c.isDigit then some (r.dropWhile Char.isDigit) else none
  | '.' :: [] => none
  | r => some r

/-- A time of day: `none` if the text does not begin like one, else what follows it, absent if
it is wrong. -/
def time? (cs : Rest) : Option (Option Rest) := do
  let r ← digitsWithin 2 0 23 cs
  let r ← mark? ':' r
  return timeRest? r

def offset? (cs : Rest) : Option Rest :=
  match cs with
  | 'Z' :: r | 'z' :: r => some r
  | '+' :: r | '-' :: r => do
    let r ← digitsWithin 2 0 23 r
    let r ← mark? ':' r
    digitsWithin 2 0 59 r
  | r => some r

def date? (cs : Rest) : Option (Option Rest) := do
  let (year, r) ← digitsOf 4 cs
  let r ← mark? '-' r
  return do
    let (month, r) ← digitsOf 2 r
    let r ← mark? '-' r
    let (day, r) ← digitsOf 2 r
    if month < 1 ∨ 12 < month ∨ day < 1 ∨ daysIn year month < day then none
    else
      match r with
      | c :: after =>
        if c = 'T' ∨ c = 't' ∨ c = ' ' then
          match time? after with
          | some (some r) => offset? r
          | some none => none
          | none => some r
        else some r
      | [] => some []

def moreDigits (isDigit : Char → Bool) (fuel : Nat) (held : List Char) (cs : Rest) :
    Option (List Char × Rest) :=
  match fuel, cs with
  | 0, r => some (held.reverse, r)
  | _, [] => some (held.reverse, [])
  | fuel + 1, '_' :: r =>
    match r with
    | d :: r => if isDigit d then moreDigits isDigit fuel (d :: held) r else none
    | [] => none
  | fuel + 1, d :: r =>
    if isDigit d then moreDigits isDigit fuel (d :: held) r else some (held.reverse, d :: r)

def digitRun (isDigit : Char → Bool) (cs : Rest) : Option (List Char × Rest) :=
  match cs with
  | d :: r => if isDigit d then moreDigits isDigit r.length [d] r else none
  | [] => none

def wholePart (cs : Rest) : Option (List Char × Rest) :=
  match cs with
  | '0' :: r => some (['0'], r)
  | r => digitRun Char.isDigit r

def natOf (base : Nat) (ds : List Char) : Nat :=
  ds.foldl (fun n c => n * base + (Text.hexValue? c).getD 0) 0

def int64Value (n : Int) (r : Rest) : Parsed :=
  if -9223372036854775808 ≤ n ∧ n ≤ 9223372036854775807 then some (.integer n, r) else none

def exponentPart (cs : Rest) : Option ((Bool × List Char) × Rest) :=
  let (down, cs) := match cs with
    | '-' :: r => (true, r)
    | '+' :: r => (false, r)
    | r => (false, r)
  (digitRun Char.isDigit cs).map fun (ds, r) => ((down, ds), r)

def overflows (digits : List Char) (exponent : Int) : Bool :=
  let m := natOf 10 digits
  if m = 0 ∨ exponent + digits.length < -400 then false
  else if 400 < exponent + digits.length then true
  else
    let (num, den) := if 0 ≤ exponent then (m * Nat.pow 10 exponent.toNat, 1)
      else (m, Nat.pow 10 (-exponent).toNat)
    (Binary64.ofQuotient false num den).isNone

def floatValue (negative : Bool) (digits : List Char) (places : Nat) (cs : Rest) : Parsed :=
  let check (exponent : Int) (r : Rest) : Parsed :=
    if !negative && overflows (digits.dropWhile (· == '0')) exponent then none
    else some (.floating, r)
  match cs with
  | 'e' :: r | 'E' :: r =>
    match exponentPart r with
    | none => none
    | some ((down, ds), r) =>
      let e : Int := if down then -(natOf 10 ds : Int) else natOf 10 ds
      check (e - places) r
  | r => check (-(places : Int)) r

def decimal (negative : Bool) (cs : Rest) : Parsed :=
  match cs with
  | 'i' :: 'n' :: 'f' :: r | 'n' :: 'a' :: 'n' :: r => some (.floating, r)
  | _ =>
    match wholePart cs with
    | none => none
    | some (whole, r) =>
      match r with
      | '.' :: r =>
        match digitRun Char.isDigit r with
        | some (places, r) => floatValue negative (whole ++ places) places.length r
        | none => none
      | 'e' :: _ | 'E' :: _ => floatValue negative whole 0 r
      | r =>
        let n : Int := natOf 10 whole
        int64Value (if negative then -n else n) r

def based (base : Nat) (isDigit : Char → Bool) (cs : Rest) : Parsed :=
  match digitRun isDigit cs with
  | some (ds, r) => int64Value (natOf base ds) r
  | none => none

def number? (cs : Rest) : Parsed :=
  match date? cs <|> time? cs with
  | some dated => dated.map (.datetime, ·)
  | none =>
    match cs with
    | '0' :: 'x' :: r => based 16 (fun c => (Text.hexValue? c).isSome) r
    | '0' :: 'o' :: r => based 8 (fun c => '0' ≤ c && c ≤ '7') r
    | '0' :: 'b' :: r => based 2 (fun c => c == '0' || c == '1') r
    | '+' :: r => decimal false r
    | '-' :: r => decimal true r
    | r => decimal false r

def word? (cs : Rest) : Parsed :=
  match cs with
  | 't' :: 'r' :: 'u' :: 'e' :: r => some (.bool true, r)
  | 'f' :: 'a' :: 'l' :: 's' :: 'e' :: r => some (.bool false, r)
  | _ => none

def scalar? (cs : Rest) : Parsed :=
  match word? cs with
  | some p => some p
  | none =>
    match string? cs with
    | some (s, r) => some (.string s, r)
    | none => number? cs

end ChaincodeConsole.Toml
