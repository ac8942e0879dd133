/-!
White space by the Unicode property of that name, and trimming by it.
A text is blank when trimming leaves nothing of it.
-/
namespace ChaincodeConsole.Text

def isBlank (c : Char) : Bool :=
  let n := c.toNat
  (9 ≤ n && n ≤ 13) || n == 0x20 || n == 0x85 || n == 0xA0 || n == 0x1680 ||
  (0x2000 ≤ n && n ≤ 0x200A) || n == 0x2028 || n == 0x2029 || n == 0x202F ||
  n == 0x205F || n == 0x3000

def trimStartChars (cs : List Char) : List Char := cs.dropWhile isBlank

def trimEndChars (cs : List Char) : List Char := (cs.reverse.dropWhile isBlank).reverse

def trimChars (cs : List Char) : List Char := trimEndChars (trimStartChars cs)

def trim (s : String) : String := String.ofList (trimChars s.toList)

def blank (s : String) : Bool := s.toList.all isBlank

def afterChars? (lead cs : List Char) : Option (List Char) :=
  if lead.isPrefixOf cs then some (cs.drop lead.length) else none

end ChaincodeConsole.Text
