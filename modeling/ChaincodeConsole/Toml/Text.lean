import ChaincodeConsole.Text.Hex

/-!
The four ways to write a string in TOML, read from behind their opening quotes. Basic strings
have escapes, literal ones have none; both may run over several lines between three quotes,
where a newline right after the opening belongs to it and one or two quotes may stand before
the closing.
-/
namespace ChaincodeConsole.Toml

abbrev Rest := List Char

def isSpace (c : Char) : Bool := c == ' ' || c == '\t'

def skipSpace (cs : Rest) : Rest := cs.dropWhile isSpace

def isPrintable (c : Char) : Bool :=
  c == '\t' || (0x20 ≤ c.toNat && c.toNat ≤ 0x7E) || 0x80 ≤ c.toNat

def codeChar? (digits : List Char) : Option Char := do
  let n ← digits.foldlM (fun n c => (Text.hexValue? c).map (n * 16 + ·)) 0
  if n < 0xD800 ∨ 0xE000 ≤ n ∧ n < 0x110000 then some (Char.ofNat n) else none

def escapeLetter? (c : Char) : Option Char :=
  match c with
  | 'b' => some (Char.ofNat 8)
  | 't' => some '\t'
  | 'n' => some '\n'
  | 'f' => some (Char.ofNat 12)
  | 'r' => some '\r'
  | '"' | '\\' => some c
  | _ => none

def escape? : Rest → Option (Char × Rest)
  | 'u' :: a :: b :: c :: d :: r => (codeChar? [a, b, c, d]).map (·, r)
  | 'U' :: a :: b :: c :: d :: e :: f :: g :: h :: r =>
    (codeChar? [a, b, c, d, e, f, g, h]).map (·, r)
  | c :: r => (escapeLetter? c).map (·, r)
  | [] => none

def newline? : Rest → Option Rest
  | '\n' :: r => some r
  | '\r' :: '\n' :: r => some r
  | _ => none

def continued? (cs : Rest) : Option Rest :=
  (newline? (skipSpace cs)).map skipBlank
where
  skipBlank : Rest → Rest
    | '\r' :: '\n' :: r => skipBlank r
    | c :: r => if c == '\n' || isSpace c then skipBlank r else c :: r
    | [] => []

def basic (fuel : Nat) (held : List Char) (cs : Rest) : Option (String × Rest) :=
  match fuel, cs with
  | 0, _ => none
  | _, [] => none
  | _, '"' :: r => some (String.ofList held.reverse, r)
  | fuel + 1, '\\' :: r =>
    match escape? r with
    | some (c, r) => basic fuel (c :: held) r
    | none => none
  | fuel + 1, c :: r => if isPrintable c then basic fuel (c :: held) r else none

def literal (fuel : Nat) (held : List Char) (cs : Rest) : Option (String × Rest) :=
  match fuel, cs with
  | 0, _ => none
  | _, [] => none
  | _, '\'' :: r => some (String.ofList held.reverse, r)
  | fuel + 1, c :: r => if isPrintable c then literal fuel (c :: held) r else none

/-- The quotes that end a string over several lines: how many of up to five belong to its
text, and what follows. -/
def closing? (quote : Char) : Rest → Option (List Char × Rest)
  | a :: b :: c :: d :: e :: r =>
    if a = quote ∧ b = quote ∧ c = quote then
      if d = quote then
        if e = quote then some ([quote, quote], r) else some ([quote], e :: r)
      else some ([], d :: e :: r)
    else none
  | [a, b, c, d] =>
    if a = quote ∧ b = quote ∧ c = quote then
      if d = quote then some ([quote], []) else some ([], [d])
    else none
  | [a, b, c] => if a = quote ∧ b = quote ∧ c = quote then some ([], []) else none
  | _ => none

def basicLines (fuel : Nat) (held : List Char) (cs : Rest) : Option (String × Rest) :=
  match fuel with
  | 0 => none
  | fuel + 1 =>
    match closing? '"' cs with
    | some (quotes, r) => some (String.ofList (held.reverse ++ quotes), r)
    | none =>
      match newline? cs with
      | some r => basicLines fuel ('\n' :: held) r
      | none =>
        match cs with
        | [] => none
        | '\\' :: r =>
          match continued? r with
          | some r => basicLines fuel held r
          | none =>
            match escape? r with
            | some (c, r) => basicLines fuel (c :: held) r
            | none => none
        | c :: r => if isPrintable c then basicLines fuel (c :: held) r else none

def literalLines (fuel : Nat) (held : List Char) (cs : Rest) : Option (String × Rest) :=
  match fuel with
  | 0 => none
  | fuel + 1 =>
    match closing? '\'' cs with
    | some (quotes, r) => some (String.ofList (held.reverse ++ quotes), r)
    | none =>
      match newline? cs with
      | some r => literalLines fuel ('\n' :: held) r
      | none =>
        match cs with
        | [] => none
        | c :: r => if isPrintable c then literalLines fuel (c :: held) r else none

def string? (cs : Rest) : Option (String × Rest) :=
  let fuel := cs.length + 1
  match cs with
  | '"' :: '"' :: '"' :: r => basicLines fuel [] ((newline? r).getD r)
  | '\'' :: '\'' :: '\'' :: r => literalLines fuel [] ((newline? r).getD r)
  | '"' :: r => basic fuel [] r
  | '\'' :: r => literal fuel [] r
  | _ => none

end ChaincodeConsole.Toml
