import ChaincodeConsole.Json.Basic
import ChaincodeConsole.Decimal.Layout
import ChaincodeConsole.Text.Hex

/-!
JSON text. Compact text has no spaces; spread text puts every item and member on a line of its
own, two spaces deeper than its container. Members are written in the order they stand in.
-/
namespace ChaincodeConsole

/-- A floating number is written with the digits that identify it, positionally from 1e-5
and below 1e16, and always with a point there; other exponents carry their sign. -/
def Number.layout : Layout := ⟨-5, 16, ['.', '0'], ['e'], ['+']⟩

namespace Number

def chars : Number → List Char
  | .natural n => Layout.digits n
  | .negative n => '-' :: Layout.digits n
  | .floating x => layout.floating x

end Number

namespace Json

def escaped (c : Char) : List Char :=
  if c = '"' then ['\\', '"']
  else if c = '\\' then ['\\', '\\']
  else if c.toNat = 8 then ['\\', 'b']
  else if c = '\t' then ['\\', 't']
  else if c = '\n' then ['\\', 'n']
  else if c.toNat = 12 then ['\\', 'f']
  else if c = '\r' then ['\\', 'r']
  else if c.toNat < 32 then
    ['\\', 'u', '0', '0', Text.lowerHexDigit (c.toNat / 16), Text.lowerHexDigit (c.toNat % 16)]
  else [c]

def quoted (s : String) : List Char := '"' :: (s.toList.flatMap escaped ++ ['"'])

mutual
def chars : Json → List Char
  | .null => ['n', 'u', 'l', 'l']
  | .bool true => ['t', 'r', 'u', 'e']
  | .bool false => ['f', 'a', 'l', 's', 'e']
  | .number n => n.chars
  | .string s => quoted s
  | .array items => '[' :: (itemChars items ++ [']'])
  | .object members => '{' :: (memberChars members ++ ['}'])

def itemChars : List Json → List Char
  | [] => []
  | x :: r => chars x ++ itemTail r

def itemTail : List Json → List Char
  | [] => []
  | x :: r => ',' :: (chars x ++ itemTail r)

def memberChars : List (String × Json) → List Char
  | [] => []
  | (k, v) :: r => quoted k ++ ':' :: (chars v ++ memberTail r)

def memberTail : List (String × Json) → List Char
  | [] => []
  | (k, v) :: r => ',' :: (quoted k ++ ':' :: (chars v ++ memberTail r))
end

def text (j : Json) : String := String.ofList j.chars

def indent (depth : Nat) : List Char := '\n' :: List.replicate (2 * depth) ' '

mutual
def spreadChars (depth : Nat) : Json → List Char
  | .array (x :: r) =>
    '[' :: (indent (depth + 1) ++ spreadChars (depth + 1) x ++ spreadItems depth r ++
      indent depth ++ [']'])
  | .object ((k, v) :: r) =>
    '{' :: (indent (depth + 1) ++ quoted k ++ ':' :: ' ' :: spreadChars (depth + 1) v ++
      spreadMembers depth r ++ indent depth ++ ['}'])
  | .null => ['n', 'u', 'l', 'l']
  | .bool true => ['t', 'r', 'u', 'e']
  | .bool false => ['f', 'a', 'l', 's', 'e']
  | .number n => n.chars
  | .string s => quoted s
  | .array [] => ['[', ']']
  | .object [] => ['{', '}']

def spreadItems (depth : Nat) : List Json → List Char
  | [] => []
  | x :: r => ',' :: (indent (depth + 1) ++ spreadChars (depth + 1) x ++ spreadItems depth r)

def spreadMembers (depth : Nat) : List (String × Json) → List Char
  | [] => []
  | (k, v) :: r =>
    ',' :: (indent (depth + 1) ++ quoted k ++ ':' :: ' ' :: spreadChars (depth + 1) v ++
      spreadMembers depth r)
end

def spread (j : Json) : String := String.ofList (spreadChars 0 j)

end Json
end ChaincodeConsole
