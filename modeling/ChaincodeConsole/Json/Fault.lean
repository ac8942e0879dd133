/-!
What can be wrong with a JSON text, and the words for it.
-/
namespace ChaincodeConsole.Json

inductive Fault where
  | valueCut
  | listCut
  | objectCut
  | stringCut
  | expectedValue
  | expectedWord
  | expectedListEnd
  | expectedObjectEnd
  | expectedColon
  | keyNotString
  | trailingComma
  | trailingCharacters
  | tooDeep
  | invalidNumber
  | numberOutOfRange
  | controlCharacter
  | invalidEscape
  | unpairedSurrogate
  | surrogateCut
  deriving DecidableEq, Repr

def Fault.message : Fault → String
  | .valueCut => "EOF while parsing a value"
  | .listCut => "EOF while parsing a list"
  | .objectCut => "EOF while parsing an object"
  | .stringCut => "EOF while parsing a string"
  | .expectedValue => "expected value"
  | .expectedWord => "expected ident"
  | .expectedListEnd => "expected `,` or `]`"
  | .expectedObjectEnd => "expected `,` or `\x7d`"
  | .expectedColon => "expected `:`"
  | .keyNotString => "key must be a string"
  | .trailingComma => "trailing comma"
  | .trailingCharacters => "trailing characters"
  | .tooDeep => "recursion limit exceeded"
  | .invalidNumber => "invalid number"
  | .numberOutOfRange => "number out of range"
  | .controlCharacter => "control character (\\u0000-\\u001F) found while parsing a string"
  | .invalidEscape => "invalid escape"
  | .unpairedSurrogate => "lone leading surrogate in hex escape"
  | .surrogateCut => "unexpected end of hex escape"

/-- A fault and how many bytes of the character at hand its place lies behind. -/
structure Stop where
  fault : Fault
  past : Nat
  deriving DecidableEq, Repr

structure Located where
  fault : Fault
  line : Nat
  column : Nat
  deriving DecidableEq, Repr

def Located.message (e : Located) : String :=
  e.fault.message ++ " at line " ++ toString e.line ++ " column " ++ toString e.column

def placeAfter (cs : List Char) : Nat × Nat :=
  cs.foldl (fun (line, column) c =>
    if c = '\n' then (line + 1, 0) else (line, column + c.utf8Size)) (1, 0)

def Stop.locate (stop : Stop) (before rest : List Char) : Located :=
  let (line, column) := placeAfter before
  if stop.past ≠ 0 ∧ rest.head? = some '\n' then ⟨stop.fault, line + 1, 0⟩
  else ⟨stop.fault, line, column + stop.past⟩

end ChaincodeConsole.Json
