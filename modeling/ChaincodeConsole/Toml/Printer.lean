import ChaincodeConsole.Text.Hex

/-!
Strings as they are written in TOML: the first of five forms that needs no escape, and
escapes where none does. Tabs stand for themselves in literal strings.
-/
namespace ChaincodeConsole.Toml

def longestRun (x : Char) (cs : List Char) : Nat :=
  (cs.foldl (fun (run, most) c =>
    if c = x then (run + 1, max most (run + 1)) else (0, most)) (0, 0)).2

def isControl (c : Char) : Bool :=
  (c.toNat < 32 && c != '\t' && c != '\n') || c.toNat == 127

def escapedChar (c : Char) : List Char :=
  if c.toNat = 8 then ['\\', 'b']
  else if c = '\t' then ['\\', 't']
  else if c = '\n' then ['\\', 'n']
  else if c.toNat = 12 then ['\\', 'f']
  else if c = '\r' then ['\\', 'r']
  else if c = '"' then ['\\', '"']
  else if c = '\\' then ['\\', '\\']
  else if c.toNat < 32 ∨ c.toNat = 127 then
    ['\\', 'u', '0', '0', Text.upperHexDigit (c.toNat / 16), Text.upperHexDigit (c.toNat % 16)]
  else [c]

/-- The body of a string over several lines: newlines stay, and of quotes in a row every third
one is escaped; `run` counts those before. -/
def escapedLines (run : Nat) : List Char → List Char
  | [] => []
  | c :: r =>
    if c = '"' then
      if run = 2 then '\\' :: '"' :: escapedLines 0 r else '"' :: escapedLines (run + 1) r
    else if c = '\n' then '\n' :: escapedLines 0 r
    else escapedChar c ++ escapedLines 0 r

def stringChars (cs : List Char) : List Char :=
  let newline := cs.contains '\n'
  let control := cs.any isControl
  let slash := cs.contains '\\'
  let opening := if newline then ['\n'] else []
  let triple (q : Char) (body : List Char) : List Char := [q, q, q] ++ opening ++ body ++ [q, q, q]
  if !newline && !control && !slash && !cs.contains '"' then
    '"' :: (cs.flatMap escapedChar ++ ['"'])
  else if !newline && !control && !cs.contains '\'' then '\'' :: (cs ++ ['\''])
  else if !slash && !control && longestRun '"' cs ≤ 2 then triple '"' (escapedLines 0 cs)
  else if !control && longestRun '\'' cs ≤ 2 then triple '\'' cs
  else if newline then triple '"' (escapedLines 0 cs)
  else '"' :: (cs.flatMap escapedChar ++ ['"'])

def stringText (s : String) : String := String.ofList (stringChars s.toList)

end ChaincodeConsole.Toml
