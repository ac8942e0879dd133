import ChaincodeConsole.Text.Composed
import ChaincodeConsole.Text.Direction
import ChaincodeConsole.Text.Folding
import ChaincodeConsole.Text.Joining
import ChaincodeConsole.Text.Punycode

/-!
Labels, the parts of a name between its dots. A label of other than ASCII characters is written in
Punycode behind a mark, and must keep rules: it begins with no mark, its joiners stand where they
have something to join, and in a name with characters that run from right to left each label runs
in one direction.
-/
namespace ChaincodeConsole.Label

def codeMark : List Char := "xn--".toList

def isAscii (cs : List Char) : Bool := cs.all (·.toNat < 128)

def nonJoiner : Char := '\u200C'
def joiner : Char := '\u200D'

/-- The class of marks that take a vowel from the letter before. -/
def viramaClass : Nat := 9

def reaches (kind : Char → Bool) (cs : List Char) : Bool :=
  (cs.dropWhile Text.Joining.isPassed).head?.any kind

/-- Joiners stand behind a virama. One that parts letters may also stand between two that would
join. What stands before is latest first. -/
def joinersFit (before : List Char) : List Char → Bool
  | [] => true
  | c :: r =>
    let behindVirama := before.head?.any (Text.markClass · = viramaClass)
    let fits :=
      if c = joiner then behindVirama
      else if c = nonJoiner then
        behindVirama ||
          (reaches Text.Joining.joinsNext before && reaches Text.Joining.joinsLast r)
      else true
    fits && joinersFit (c :: before) r

def fits (label : List Char) : Bool :=
  !label.head?.any Text.isMark && joinersFit [] label

def longestCode : Nat := 2000

def longestWritten : Nat := 1000

def plain? (label : List Char) : Option (List Char) :=
  match Text.afterChars? codeMark label with
  | some code =>
    if longestCode - codeMark.length < code.length then none
    else
      (Text.Punycode.decode? code).filter fun cs =>
        !isAscii cs && cs.all Text.Folding.isFolded && Text.Composed.ofChars cs == cs && fits cs
  | none =>
    if isAscii label then some label
    else if label.length ≤ longestWritten ∧ fits label then some label
    else none

def written (label : List Char) : List Char :=
  if isAscii label then label else codeMark ++ Text.Punycode.encode label

def runsBack (label : List Char) : Bool :=
  label.any fun c => [.rightToLeft, .arabicNumber].contains (Text.Direction.ofChar c)

/-- Whether a label runs in one direction, which its first character gives. At its end stand
letters or numbers, with marks; from right to left there are not numbers of both kinds. -/
def hasOneDirection (label : List Char) : Bool :=
  let directions := label.map Text.Direction.ofChar
  let last := (directions.reverse.dropWhile (· == .mark)).head?
  match directions.head? with
  | none => true
  | some .leftToRight =>
    directions.all (fun d => d != .rightToLeft && d != .arabicNumber) &&
      (last == some .leftToRight || last == some .europeanNumber)
  | some .rightToLeft =>
    directions.all (· != .leftToRight) && last != some .neutral &&
      !(directions.contains .arabicNumber && directions.contains .europeanNumber)
  | _ => false

def allWritten? (labels : List (List Char)) : Option (List (List Char)) := do
  let plain ← labels.mapM plain?
  if plain.any runsBack && !plain.all hasOneDirection then none else return labels.map written

end ChaincodeConsole.Label
