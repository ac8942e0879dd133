import ChaincodeConsole.Server.Host

/-!
Addresses, read the way a browser reads them: blanks and control characters at the ends and tabs
and line breaks anywhere are dropped, `.` and `..` are resolved in the path, and what must not
stand in a part is percent-encoded there. In an address of the web a backslash counts as a slash,
and there always is a host and a path.
-/
namespace ChaincodeConsole

structure Url where
  scheme : String
  /-- Absent where no place for one is marked, and empty where that place is. -/
  host : Option String
  portNumber : Option Nat
  rooted : Bool
  /-- What stands between the slashes of the path; a trailing slash leaves an empty segment. -/
  segments : List String
  query : Option String
  fragment : Option String
  deriving DecidableEq, Repr

namespace Url

inductive Fault where
  | noScheme
  | host (fault : Host.Fault)
  | portNumber
  deriving DecidableEq, Repr

def Fault.message : Fault → String
  | .noScheme => "relative URL without a base"
  | .host fault => fault.message
  | .portNumber => "invalid port number"

inductive Manner where
  | web
  | file
  | other
  deriving DecidableEq, Repr

def mannerOf (scheme : String) : Manner :=
  if ["http", "https", "ftp", "ws", "wss"].contains scheme then .web
  else if scheme = "file" then .file else .other

def ownPort? (scheme : String) : Option Nat :=
  if scheme = "http" ∨ scheme = "ws" then some 80
  else if scheme = "https" ∨ scheme = "wss" then some 443
  else if scheme = "ftp" then some 21 else none

def cleaned (cs : List Char) : List Char :=
  let edge (c : Char) : Bool := c.toNat ≤ 32
  let inner := ((cs.dropWhile edge).reverse.dropWhile edge).reverse
  inner.filter fun c => c != '\t' && c != '\n' && c != '\r'

def isPrintable (c : Char) : Bool := 0x20 < c.toNat && c.toNat < 0x7F

def keptUnrooted (c : Char) : Bool := c == ' ' || isPrintable c

def keptInFragment (c : Char) : Bool := isPrintable c && !(['"', '<', '>', '\x60'].contains c)

def keptInPath (c : Char) : Bool := keptInFragment c && !(['#', '?', '{', '}'].contains c)

/-- Characters that stand for themselves in a query. An apostrophe is one of them only outside
the web. -/
def keptInQuery (m : Manner) (c : Char) : Bool :=
  isPrintable c && !(['"', '#', '<', '>'].contains c) && (m == .other || c != '\'')

def isSlash (m : Manner) (c : Char) : Bool := c == '/' || (m != .other && c == '\\')

def splitSlashes (m : Manner) : List Char → List (List Char)
  | [] => [[]]
  | c :: r =>
    if isSlash m c then [] :: splitSlashes m r
    else
      match splitSlashes m r with
      | part :: parts => (c :: part) :: parts
      | [] => [[c]]

def plainDots : List Char → List Char
  | '%' :: '2' :: 'e' :: r | '%' :: '2' :: 'E' :: r => '.' :: plainDots r
  | c :: r => c :: plainDots r
  | [] => []

def isDrive : List Char → Bool
  | [c, mark] => c.isAlpha && (mark == ':' || mark == '|')
  | _ => false

/-- The segments that a step up leaves, latest first; it does not leave a drive. -/
def stepUp : List (List Char) → List (List Char)
  | [] => []
  | last :: held => if isDrive last then last :: held else held

/-- The segments of a path, `held` being those before, latest first. A step at the end of the path
leaves an empty segment. -/
def resolve (held : List (List Char)) : List (List Char) → List (List Char)
  | [] => held.reverse
  | part :: rest =>
    let dots := plainDots part
    let final := rest.isEmpty
    if dots = ['.', '.'] then resolve (if final then [] :: stepUp held else stepUp held) rest
    else if dots = ['.'] then resolve (if final then [] :: held else held) rest
    else resolve (Text.percentChars keptInPath part :: held) rest

def pathSegments (m : Manner) (path : List Char) : List String :=
  let path := match path with
    | c :: r => if isSlash m c then r else c :: r
    | [] => []
  (resolve [] (splitSlashes m path)).map String.ofList

def cutAt (at? : Char → Bool) (cs : List Char) : List Char × Option (List Char) :=
  match cs.dropWhile (!at? ·) with
  | [] => (cs, none)
  | _ :: r => (cs.takeWhile (!at? ·), some r)

def withoutUser (authority : List Char) : List Char :=
  (authority.reverse.takeWhile (· != '@')).reverse

/-- The host of an authority, and the text behind the colon that ends it. Between brackets a colon
is part of the host. -/
def splitHost (bracketed : Bool) : List Char → List Char × Option (List Char)
  | [] => ([], none)
  | c :: r =>
    if c = ':' ∧ !bracketed then ([], some r)
    else
      let (host, number) := splitHost (if c = '[' then true else bracketed && c != ']') r
      (c :: host, number)

def portNumber? (scheme : String) (digits : List Char) : Except Fault (Option Nat) :=
  if digits.isEmpty then .ok none
  else
    match (Text.digits? digits).filter (· ≤ 65535) with
    | some n => .ok (if ownPort? scheme = some n then none else some n)
    | none => .error .portNumber

def schemeChar (c : Char) : Bool := c.isAlphanum || ['+', '-', '.'].contains c

def splitScheme (cs : List Char) : Option (String × List Char) :=
  let name := cs.takeWhile schemeChar
  match name, cs.dropWhile schemeChar with
  | c :: _, ':' :: r => if c.isAlpha then some (String.ofList (name.map Char.toLower), r) else none
  | _, _ => none

def splitAuthority (m : Manner) (cs : List Char) : Option (List Char × List Char) :=
  let apart (r : List Char) := (r.takeWhile (!isSlash m ·), r.dropWhile (!isSlash m ·))
  match m with
  | .web => some (apart (cs.dropWhile (isSlash m)))
  | _ =>
    match cs with
    | a :: b :: r => if isSlash m a ∧ isSlash m b then some (apart r) else none
    | _ => none

/-- The host that an authority gives, and the number behind it. That of a file has no number and no
user, and the machine itself is no host. -/
def readAuthority (m : Manner) (scheme : String) (authority : List Char) :
    Except Fault (String × Option Nat) := do
  if m = .file then
    if authority.isEmpty then return ("", none)
    else
      let host ← (Host.ofWebText authority).mapError .host
      return (if host = "localhost".toList then "" else String.ofList host, none)
  else
    let inner := withoutUser authority
    let (hostText, digits) := splitHost false inner
    let read := if m = .web then Host.ofWebText else Host.ofOtherText
    let host ← (read hostText).mapError .host
    if host.isEmpty ∧ (digits.isSome ∨ inner ≠ authority) then throw (.host .empty)
    let number ← portNumber? scheme (digits.getD [])
    return (String.ofList host, number)

def ofText (s : String) : Except Fault Url := do
  match splitScheme (cleaned s.toList) with
  | none => throw .noScheme
  | some (scheme, r) =>
    let m := mannerOf scheme
    let (r, fragment) := cutAt (· == '#') r
    let (r, query) := cutAt (· == '?') r
    let (authority, path) := (splitAuthority m r).getD ([], r)
    let marked := m ≠ Manner.other ∨ (splitAuthority m r).isSome
    let (host, number) ←
      if marked then readAuthority m scheme authority else pure ("", none)
    let rooted := m != Manner.other || path.head?.any (isSlash m ·)
    return {
      scheme, rooted
      host := if marked then some host else none
      portNumber := number
      segments :=
        if rooted then pathSegments m path
        else if path.isEmpty then []
        else [String.ofList (Text.percentChars keptUnrooted path)]
      query := query.map fun q => String.ofList (Text.percentChars (keptInQuery m) q)
      fragment := fragment.map fun f => String.ofList (Text.percentChars keptInFragment f) }

def hasHost (u : Url) : Bool := u.host.any (!·.isEmpty)

def withQuery (u : Url) (pairs : List (String × String)) : Url :=
  let old := (u.query.getD "").toList
  let new := Text.formPairs pairs
  let all := if pairs.isEmpty then old else if old.isEmpty then new else old ++ '&' :: new
  { u with query := if all.isEmpty then none else some (String.ofList all) }

def path (u : Url) : String :=
  (if u.rooted then "/" else "") ++ String.intercalate "/" u.segments

def target (u : Url) : String :=
  u.path ++ (u.query.map ("?" ++ ·)).getD ""

/-- The host with its mark and the number. Without a host a path that would look like one is kept
apart. -/
def authority (u : Url) : String :=
  match u.host with
  | some host => "//" ++ host ++ (u.portNumber.map fun p => ":" ++ toString p).getD ""
  | none => if u.rooted ∧ u.segments.head? = some "" ∧ 1 < u.segments.length then "/." else ""

def text (u : Url) : String :=
  u.scheme ++ ":" ++ u.authority ++ u.target ++ (u.fragment.map ("#" ++ ·)).getD ""

end Url
end ChaincodeConsole
