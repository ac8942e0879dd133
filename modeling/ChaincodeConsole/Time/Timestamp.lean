import ChaincodeConsole.Decimal.Layout
import ChaincodeConsole.Text.Blank
import ChaincodeConsole.Time.Date

/-!
Points in time, as date and time of day at longitude zero. They are written with three, six or
nine places of a second, or none, as few as are exact. Reading is lenient: one digit may do for
two, blanks may stand between the fields, and any offset from longitude zero is taken off.
-/
namespace ChaincodeConsole

structure Timestamp where
  date : Date
  minute : Nat
  second : Nat
  nano : Nat
  deriving DecidableEq, Repr

namespace Timestamp

def padded (width n : Nat) : List Char :=
  let ds := Layout.digits n
  List.replicate (width - ds.length) '0' ++ ds

/-- Four digits for the years from 0 to 9999; other years carry a sign. -/
def yearChars (year : Int) : List Char :=
  match year with
  | .ofNat n => if n ≤ 9999 then padded 4 n else '+' :: padded 4 n
  | .negSucc n => '-' :: padded 4 (n + 1)

def fractionChars (nano : Nat) : List Char :=
  if nano = 0 then []
  else if nano % 1000000 = 0 then '.' :: padded 3 (nano / 1000000)
  else if nano % 1000 = 0 then '.' :: padded 6 (nano / 1000)
  else '.' :: padded 9 nano

def clockChars (t : Timestamp) : List Char :=
  padded 2 (t.minute / 60) ++ ':' :: padded 2 (t.minute % 60) ++ ':' :: padded 2 t.second

def clock (t : Timestamp) : String := String.ofList t.clockChars

def dayChars (d : Date) : List Char :=
  yearChars d.year ++ '-' :: padded 2 d.month ++ '-' :: padded 2 d.day

def chars (t : Timestamp) : List Char :=
  dayChars t.date ++ 'T' :: t.clockChars ++ fractionChars t.nano ++ ['Z']

def text (t : Timestamp) : String := String.ofList t.chars

inductive Fault where
  | outOfRange
  | impossible
  | invalid
  | cut
  | trailing
  deriving DecidableEq, Repr

def Fault.message : Fault → String
  | .outOfRange => "input is out of range"
  | .impossible => "no possible date and time matching input"
  | .invalid => "input contains invalid characters"
  | .cut => "premature end of input"
  | .trailing => "trailing input"

def decimalOf (ds : List Char) : Nat := ds.foldl (fun n c => n * 10 + (c.toNat - 48)) 0

def number (cs : List Char) : Except Fault (Nat × List Char) :=
  match cs with
  | [] => .error .cut
  | c :: _ =>
    if c.isDigit then .ok (decimalOf (cs.takeWhile Char.isDigit), cs.dropWhile Char.isDigit)
    else .error .invalid

def numberUpTo (width : Nat) (cs : List Char) : Except Fault (Nat × List Char) :=
  match cs with
  | [] => .error .cut
  | c :: _ =>
    if c.isDigit then
      let ds := (cs.take width).takeWhile Char.isDigit
      .ok (decimalOf ds, cs.drop ds.length)
    else .error .invalid

def field (low high : Nat) (cs : List Char) : Except Fault (Nat × List Char) := do
  let (n, r) ← numberUpTo 2 (Text.trimStartChars cs)
  if low ≤ n ∧ n ≤ high then return (n, r) else throw .outOfRange

def mark (c : Char) (cs : List Char) : Except Fault (List Char) :=
  match Text.trimStartChars cs with
  | [] => .error .cut
  | d :: r => if d = c then .ok r else .error .invalid

def boundedYear (year : Int) (r : List Char) : Except Fault (Int × List Char) :=
  if -2147483648 ≤ year ∧ year ≤ 2147483647 then .ok (year, r) else .error .outOfRange

def year (cs : List Char) : Except Fault (Int × List Char) :=
  match Text.trimStartChars cs with
  | '-' :: r => do
    let (n, r) ← number r
    boundedYear (-(n : Int)) r
  | '+' :: r => do
    let (n, r) ← number r
    boundedYear n r
  | r => do
    let (n, r) ← numberUpTo 4 r
    return ((n : Int), r)

/-- The fraction of a second in billionths; digits beyond the ninth do not count. -/
def fraction (cs : List Char) : Except Fault (Nat × List Char) :=
  match cs with
  | '.' :: r => do
    let (_, rest) ← number r
    let ds := (r.takeWhile Char.isDigit).take 9
    return (decimalOf ds * Nat.pow 10 (9 - ds.length), rest)
  | r => .ok (0, r)

def twoDigits (highest : Char) (cs : List Char) : Except Fault (Nat × List Char) :=
  match cs with
  | [] => .error .cut
  | [c] => .error (if c.toNat < 128 then .cut else .invalid)
  | a :: b :: r =>
    if a.isDigit ∧ b.isDigit then
      if a ≤ highest then .ok (decimalOf [a, b], r) else .error .outOfRange
    else .error .invalid

def offsetMinutes (cs : List Char) : Except Fault (Nat × List Char) := do
  let (hours, r) ← twoDigits '9' cs
  let (minutes, r) ← twoDigits '5' (r.dropWhile fun c => c == ':' || Text.isBlank c)
  return (hours * 60 + minutes, r)

def offset (cs : List Char) : Except Fault (Int × List Char) :=
  let cs := Text.trimStartChars cs
  if (cs.take 3).map Char.toLower = ['u', 't', 'c'] then .ok (0, cs.drop 3)
  else
    match cs with
    | 'Z' :: r | 'z' :: r => .ok (0, r)
    | '+' :: r => do
      let (n, r) ← offsetMinutes r
      return ((n : Int), r)
    | '-' :: r | '−' :: r => do
      let (n, r) ← offsetMinutes r
      return (-(n : Int), r)
    | [] => .error .cut
    | _ => .error .invalid

def dateEnd (cs : List Char) : Except Fault (List Char) :=
  match cs with
  | [] => .error .cut
  | c :: r => if c = 'T' ∨ c = 't' ∨ c = ' ' then .ok r else .error .invalid

def behind (t : Timestamp) (ahead : Int) : Timestamp :=
  let m : Int := t.minute - ahead
  if m < 0 then { t with date := t.date.previous, minute := (m + 1440).toNat }
  else if 1440 ≤ m then { t with date := t.date.next, minute := (m - 1440).toNat }
  else { t with minute := m.toNat }

def ofLocal (t : Timestamp) (ahead : Int) : Except Fault Timestamp :=
  if ¬t.date.Valid ∨ ahead ≤ -1440 ∨ 1440 ≤ ahead then .error .outOfRange
  else
    let t := t.behind ahead
    if t.date.Valid then .ok t else .error .impossible

def ofChars (cs : List Char) : Except Fault Timestamp := do
  let (year, r) ← year cs
  let (month, r) ← field 1 12 (← mark '-' r)
  let (day, r) ← field 1 31 (← mark '-' r)
  let (hour, r) ← field 0 23 (← dateEnd r)
  let (minute, r) ← field 0 59 (← mark ':' r)
  let (second, r) ← field 0 60 (← mark ':' r)
  let (nano, r) ← fraction r
  let (ahead, r) ← offset r
  if (Text.trimStartChars r).isEmpty then
    ofLocal ⟨⟨year, month, day⟩, hour * 60 + minute, second, nano⟩ ahead
  else throw .trailing

def ofText (s : String) : Except Fault Timestamp := ofChars s.toList

end Timestamp
end ChaincodeConsole
