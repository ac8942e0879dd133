import ChaincodeConsole.Toml.Scalar

/-!
TOML documents: entries under dotted keys, tables and arrays of tables under headers, comments.
Arrays may run over lines and end in a comma, inline tables may not. At most 79 arrays and
inline tables may be open at once, and no key may have 80 parts.
-/
namespace ChaincodeConsole.Toml

def isBareKey (c : Char) : Bool := c.isAlphanum || c == '_' || c == '-'

def simpleKey? (cs : Rest) : Option (String × Rest) :=
  match cs with
  | '"' :: r => basic (r.length + 1) [] r
  | '\'' :: r => literal (r.length + 1) [] r
  | _ =>
    let bare := cs.takeWhile isBareKey
    if bare.isEmpty then none else some (String.ofList bare, cs.dropWhile isBareKey)

def keyRest (fuel : Nat) (held : List String) (cs : Rest) : Option (List String × Rest) :=
  match fuel, skipSpace cs with
  | fuel + 1, '.' :: r =>
    match simpleKey? (skipSpace r) with
    | some (k, r) => keyRest fuel (k :: held) r
    | none => none
  | _, r => some (held, r)

def depthLimit : Nat := 80

def key? (cs : Rest) : Option ((List String × String) × Rest) := do
  let (first, r) ← simpleKey? (skipSpace cs)
  let (parts, r) ← keyRest r.length [first] r
  if depthLimit ≤ parts.length then none
  else
    match parts with
    | last :: before => some ((before.reverse, last), r)
    | [] => none

def skipComment (cs : Rest) : Rest :=
  match cs with
  | '#' :: r => r.dropWhile isPrintable
  | r => r

def skipLines (fuel : Nat) (cs : Rest) : Rest :=
  match fuel with
  | 0 => cs
  | fuel + 1 =>
    let r := skipSpace cs
    match newline? (skipComment r) with
    | some r => skipLines fuel r
    | none => r

def inlineTable? (entries : List (List String × String × Value)) : Option Value :=
  (entries.foldlM (fun t (path, key, v) => Entries.addEntry path key v t) []).map fun t =>
    .table (Node.finishEntries t)

mutual
def value? (fuel depth : Nat) (cs : Rest) : Parsed :=
  match fuel with
  | 0 => none
  | fuel + 1 =>
    match cs with
    | '[' :: r =>
      if depthLimit ≤ depth + 1 then none
      else (items? fuel (depth + 1) r).map fun (items, r) => (.array items, r)
    | '{' :: r =>
      if depthLimit ≤ depth + 1 then none
      else
        match skipSpace r with
        | '}' :: r => some (.table [], r)
        | r =>
          match entries? fuel (depth + 1) r with
          | some (entries, r) => (inlineTable? entries).map (·, r)
          | none => none
    | cs => scalar? cs

def items? (fuel depth : Nat) (cs : Rest) : Option (List Value × Rest) :=
  match fuel with
  | 0 => none
  | fuel + 1 =>
    match skipLines cs.length cs with
    | ']' :: r => some ([], r)
    | r =>
      match value? fuel depth r with
      | none => none
      | some (v, r) =>
        match skipLines r.length r with
        | ',' :: r => (items? fuel depth r).map fun (vs, r) => (v :: vs, r)
        | ']' :: r => some ([v], r)
        | _ => none

def entries? (fuel depth : Nat) (cs : Rest) : Option (List (List String × String × Value) × Rest) :=
  match fuel with
  | 0 => none
  | fuel + 1 =>
    match key? cs with
    | some ((path, key), '=' :: r) =>
      match value? fuel depth (skipSpace r) with
      | none => none
      | some (v, r) =>
        match skipSpace r with
        | ',' :: r => (entries? fuel depth r).map fun (es, r) => ((path, key, v) :: es, r)
        | '}' :: r => some ([(path, key, v)], r)
        | _ => none
    | _ => none
end

def lineEnd? (cs : Rest) : Option Rest :=
  match skipComment (skipSpace cs) with
  | [] => some []
  | r => newline? r

structure Builder where
  root : Entries
  path : List String

def header? (close : List Char) (openWith : List String → String → Entries → Option Entries)
    (b : Builder) (cs : Rest) : Option (Builder × Rest) := do
  let ((path, key), r) ← key? cs
  if close.isPrefixOf r then
    let r ← lineEnd? (r.drop close.length)
    let root ← openWith path key b.root
    some (⟨root, path ++ [key]⟩, r)
  else none

def entry? (b : Builder) (cs : Rest) : Option (Builder × Rest) :=
  match key? cs with
  | some ((path, key), '=' :: r) => do
    let (v, r) ← value? (r.length + 1) 0 (skipSpace r)
    let r ← lineEnd? r
    let root ← Entries.atPath false (fun _ t => Entries.addEntry path key v t) b.path false b.root
    some (⟨root, b.path⟩, r)
  | _ => none

def line? (b : Builder) (cs : Rest) : Option (Builder × Rest) :=
  match cs with
  | '[' :: '[' :: r => header? [']', ']'] Entries.openItem b r
  | '[' :: r => header? [']'] Entries.openTable b r
  | '#' :: _ | '\n' :: _ | '\r' :: _ => (lineEnd? cs).map (b, ·)
  | _ => entry? b cs

def lines? (fuel : Nat) (b : Builder) (cs : Rest) : Option Builder :=
  match fuel, skipSpace cs with
  | _, [] => some b
  | 0, _ => none
  | fuel + 1, r =>
    match line? b r with
    | some (b, r) => lines? fuel b r
    | none => none

def read? (text : String) : Option (List (String × Value)) :=
  let cs := match text.toList with
    | '\uFEFF' :: r => r
    | r => r
  (lines? (cs.length + 1) ⟨[], []⟩ cs).map fun b => Node.finishEntries b.root

end ChaincodeConsole.Toml
