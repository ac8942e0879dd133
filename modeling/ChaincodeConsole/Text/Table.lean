import ChaincodeConsole.Text.Blank
import ChaincodeConsole.Text.Hex

/-!
Tables of characters, written as text: entries with blanks between them, and in them numbers in
hexadecimal digits. A range is two numbers with a hyphen between them, or one number.
-/
namespace ChaincodeConsole.Text.Table

def entries (table : String) : List (List Char) :=
  let (last, done) := table.toList.foldl (fun (entry, done) c =>
    if !isBlank c then (c :: entry, done)
    else if entry.isEmpty then ([], done) else ([], entry.reverse :: done)) ([], [])
  (if last.isEmpty then done else last.reverse :: done).reverse

def number (cs : List Char) : Nat := cs.foldl (fun n c => n * 16 + (hexValue? c).getD 0) 0

def sides (mark : Char) (cs : List Char) : List Char × List Char :=
  (cs.takeWhile (· != mark), (cs.dropWhile (· != mark)).drop 1)

def range (cs : List Char) : Nat × Nat :=
  let (low, high) := sides '-' cs
  (number low, if high.isEmpty then number low else number high)

def ranges (table : String) : List (Nat × Nat) := (entries table).map range

def holds (table : List (Nat × Nat)) (c : Char) : Bool :=
  table.any fun (low, high) => low ≤ c.toNat && c.toNat ≤ high

end ChaincodeConsole.Text.Table
