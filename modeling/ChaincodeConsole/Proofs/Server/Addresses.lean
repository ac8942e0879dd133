import ChaincodeConsole.Server.Url
import Mathlib.Data.List.DropRight

/-! Addresses with something behind them. What stands behind a slash at the end of an address of the
web goes on with its path, and may begin a query and a fragment; all before it stays what it is. -/
namespace ChaincodeConsole.Url

theorem takeWhileStops {p : Char → Bool} {c : Char} (stops : p c = false) (front cs : List Char) :
    (front ++ c :: cs).takeWhile p = front.takeWhile p := by
  rw [List.takeWhile_append, List.takeWhile_cons_of_neg (by simp [stops]), List.append_nil]
  split
  · rename_i whole
    exact ((List.takeWhile_prefix p).eq_of_length whole).symm
  · rfl

theorem dropWhileStops {p : Char → Bool} {c : Char} (stops : p c = false) (front cs : List Char) :
    (front ++ c :: cs).dropWhile p = front.dropWhile p ++ c :: cs := by
  rw [List.dropWhile_append, List.dropWhile_cons_of_neg (by simp [stops])]
  split
  · rename_i empty
    rw [List.isEmpty_iff.mp empty, List.nil_append]
  · rfl

def isEdge (c : Char) : Bool := c.toNat ≤ 32

def isInner (c : Char) : Bool := c != '\t' && c != '\n' && c != '\r'

def tidied (cs : List Char) : List Char := (cs.rdropWhile isEdge).filter isInner

theorem innerOff {c : Char} (off : isEdge c = false) : isInner c = true := by
  simp only [isInner, Bool.and_eq_true, bne_iff_ne]
  refine ⟨⟨?_, ?_⟩, ?_⟩ <;> rintro rfl <;> cases off

theorem tidiedBehind {c : Char} (off : isEdge c = false) (front cs : List Char) :
    tidied (front ++ c :: cs) = front.filter isInner ++ c :: tidied cs := by
  have ends : (front ++ c :: cs).rdropWhile isEdge = front ++ c :: cs.rdropWhile isEdge := by
    simp only [List.rdropWhile, List.reverse_append, List.reverse_cons, List.append_assoc,
      List.singleton_append, dropWhileStops off, List.reverse_reverse]
  rw [tidied, ends, List.filter_append, List.filter_cons_of_pos (innerOff off), tidied]

theorem cleanedBehind (base cs : List Char) :
    cleaned (base ++ '/' :: cs) = (base.dropWhile isEdge).filter isInner ++ '/' :: tidied cs := by
  have same : cleaned (base ++ '/' :: cs) = tidied ((base ++ '/' :: cs).dropWhile isEdge) := rfl
  rw [same, dropWhileStops (by decide), tidiedBehind (by decide)]

theorem schemeBehind {front : List Char} {scheme : String} {r : List Char}
    (found : splitScheme (front ++ ['/']) = some (scheme, r)) : ∃ inner, r = inner ++ ['/'] ∧
      ∀ cs, splitScheme (front ++ '/' :: cs) = some (scheme, inner ++ '/' :: cs) := by
  have stops : schemeChar '/' = false := by decide
  simp only [splitScheme, takeWhileStops stops, dropWhileStops stops] at *
  cases name : front.takeWhile schemeChar with
  | nil => simp [name] at found
  | cons c later =>
    cases left : front.dropWhile schemeChar with
    | nil => simp [name, left] at found
    | cons d inner =>
      simp only [name, left, List.cons_append] at found ⊢
      split at found
      · rename_i first same
        cases first
        cases same
        split at found
        · rename_i letter
          cases found
          exact ⟨inner, rfl, fun cs => by simp [letter]⟩
        · cases found
      · cases found

theorem cutAtNone {p : Char → Bool} {cs : List Char} (whole : (cutAt p cs).2 = none) :
    cutAt p cs = (cs, none) ∧ ∀ c ∈ cs, p c = false := by
  unfold cutAt at whole ⊢
  cases left : cs.dropWhile (!p ·) with
  | nil => exact ⟨rfl, by simpa using left⟩
  | cons c r => simp [left] at whole

theorem cutAtBehind {p : Char → Bool} {front : List Char} (plain : ∀ c ∈ front, p c = false)
    (cs : List Char) : cutAt p (front ++ cs) = (front ++ (cutAt p cs).1, (cutAt p cs).2) := by
  have passed : ∀ c ∈ front, (!p c) = true := by simpa using plain
  unfold cutAt
  rw [List.dropWhile_append_of_pos passed, List.takeWhile_append_of_pos passed]
  cases cs.dropWhile (!p ·) <;> rfl

theorem cutAtPrefix (p : Char → Bool) (cs : List Char) :
    (cutAt p cs).1 <+: cs ∧ ∀ c ∈ (cutAt p cs).1, p c = false := by
  unfold cutAt
  cases left : cs.dropWhile (!p ·) with
  | nil => exact ⟨List.prefix_rfl, by simpa using left⟩
  | cons c r =>
    exact ⟨List.takeWhile_prefix _, fun d inside => by simpa using List.mem_takeWhile_imp inside⟩

theorem splitSlashesNonempty (m : Manner) (cs : List Char) : splitSlashes m cs ≠ [] := by
  cases cs with
  | nil => simp [splitSlashes]
  | cons c r =>
    unfold splitSlashes
    split
    · simp
    · split <;> simp

theorem splitSlashesBehind {m : Manner} {c : Char} (slash : isSlash m c = true)
    (front cs : List Char) :
    splitSlashes m (front ++ c :: cs) = splitSlashes m front ++ splitSlashes m cs := by
  induction front with
  | nil => simp [splitSlashes, slash]
  | cons d front ih =>
    rw [List.cons_append, splitSlashes, splitSlashes, ih]
    split
    · rfl
    · cases parts : splitSlashes m front with
      | nil => exact absurd parts (splitSlashesNonempty m front)
      | cons part parts => rfl

theorem splitSlashesPlain {m : Manner} {cs : List Char} (plain : ∀ c ∈ cs, isSlash m c = false) :
    splitSlashes m cs = [cs] := by
  induction cs with
  | nil => rfl
  | cons c cs ih =>
    obtain ⟨first, rest⟩ := List.forall_mem_cons.mp plain
    rw [splitSlashes, if_neg (by simp [first]), ih rest]

theorem splitSlashesPart {m : Manner} {cs part : List Char} (inside : part ∈ splitSlashes m cs) :
    part.Sublist cs ∧ ∀ c ∈ part, isSlash m c = false := by
  induction cs generalizing part with
  | nil =>
    cases List.mem_singleton.mp inside
    exact ⟨.slnil, by simp⟩
  | cons c cs ih =>
    rw [splitSlashes] at inside
    split at inside
    · rcases List.mem_cons.mp inside with rfl | later
      · exact ⟨List.nil_sublist _, by simp⟩
      · exact ⟨(ih later).1.cons c, (ih later).2⟩
    · rename_i plain
      cases parts : splitSlashes m cs with
      | nil => exact absurd parts (splitSlashesNonempty m cs)
      | cons first parts =>
        rw [parts] at inside ih
        rcases List.mem_cons.mp inside with rfl | later
        · obtain ⟨within, free⟩ := ih List.mem_cons_self
          exact ⟨within.cons_cons c, List.forall_mem_cons.mpr ⟨by simpa using plain, free⟩⟩
        · obtain ⟨within, free⟩ := ih (List.mem_cons_of_mem _ later)
          exact ⟨within.cons c, free⟩

def IsStep (part : List Char) : Prop :=
  plainDots part = ['.', '.'] ∨ plainDots part = ['.']

instance : DecidablePred IsStep := fun _ => inferInstanceAs (Decidable (_ ∨ _))

def walk (held : List (List Char)) (part : List Char) : List (List Char) :=
  if plainDots part = ['.', '.'] then stepUp held
  else if plainDots part = ['.'] then held
  else Text.percentChars keptInPath part :: held

theorem walkPlain {part : List Char} (plain : ¬IsStep part) (held : List (List Char)) :
    walk held part = Text.percentChars keptInPath part :: held := by
  simp only [IsStep, not_or] at plain
  rw [walk, if_neg plain.1, if_neg plain.2]

theorem resolveBehind (held : List (List Char)) (parts : List (List Char)) {rest : List (List Char)}
    (more : rest ≠ []) : resolve held (parts ++ rest) = resolve (parts.foldl walk held) rest := by
  induction parts generalizing held with
  | nil => rfl
  | cons part parts ih =>
    have unfinished : (parts ++ rest).isEmpty = false := by simp [more]
    rw [List.cons_append, resolve, List.foldl_cons, ← ih]
    simp only [unfinished, walk, Bool.false_eq_true, if_false]
    split
    · rfl
    · split <;> rfl

theorem resolvePlain {part : List Char} (plain : ¬IsStep part) (held : List (List Char)) :
    resolve held [part] = held.reverse ++ [Text.percentChars keptInPath part] := by
  simp only [IsStep, not_or] at plain
  simp [resolve, plain.1, plain.2]

theorem resolveLast (held : List (List Char)) (parts : List (List Char)) (part : List Char) :
    (resolve held (parts ++ [part])).getLast? =
      some (if IsStep part then [] else Text.percentChars keptInPath part) := by
  rw [resolveBehind held parts (by simp)]
  by_cases up : plainDots part = ['.', '.']
  · simp [resolve, IsStep, up]
  · by_cases here : plainDots part = ['.']
    · simp [resolve, IsStep, here]
    · simp [resolve, IsStep, up, here]

theorem stepUpCases (held : List (List Char)) : stepUp held = held ∨ stepUp held = held.tail := by
  cases held with
  | nil => exact .inl rfl
  | cons last held =>
    rw [stepUp]
    split
    · exact .inl rfl
    · exact .inr rfl

theorem walkNews (parts : List (List Char)) (held : List (List Char)) : ∃ news kept,
    parts.foldl walk held = news ++ kept ∧ kept <:+ held ∧ ∀ segment ∈ news, ∃ part ∈ parts,
      ¬IsStep part ∧ segment = Text.percentChars keptInPath part := by
  -- The last piece adds one, stays, or takes back one that is new, if there is any.
  induction parts using List.reverseRecOn with
  | nil => exact ⟨[], held, rfl, List.suffix_rfl, by simp⟩
  | append_singleton parts part ih =>
    obtain ⟨news, kept, walked, before, written⟩ := ih
    have longer : ∀ segment ∈ news, ∃ p ∈ parts ++ [part],
        ¬IsStep p ∧ segment = Text.percentChars keptInPath p := fun segment inside =>
      (written segment inside).imp fun p ⟨held, rest⟩ => ⟨List.mem_append_left _ held, rest⟩
    rw [List.foldl_append, walked, List.foldl_cons, List.foldl_nil]
    by_cases up : plainDots part = ['.', '.']
    · rw [walk, if_pos up]
      rcases stepUpCases (news ++ kept) with same | fewer
      · exact ⟨news, kept, same, before, longer⟩
      · cases news with
        | nil => exact ⟨[], kept.tail, fewer, (List.tail_suffix kept).trans before, by simp⟩
        | cons last news => exact ⟨news, kept, fewer, before, (List.forall_mem_cons.mp longer).2⟩
    · by_cases here : plainDots part = ['.']
      · exact ⟨news, kept, by rw [walk, if_neg up, if_pos here], before, longer⟩
      · have plain : ¬IsStep part := by simp [IsStep, up, here]
        refine ⟨Text.percentChars keptInPath part :: news, kept, walkPlain plain _, before, ?_⟩
        exact List.forall_mem_cons.mpr ⟨⟨part, by simp, plain, rfl⟩, longer⟩

theorem webSlash : isSlash .web '/' = true := rfl

theorem authorityBehind (inner : List Char) :
    (splitAuthority .web (inner ++ ['/'])).map Prod.fst = some [] ∨
      ∃ authority front, (front = [] ∨ ∃ c r, front = c :: r ∧ isSlash .web c = true) ∧
        ∀ cs, splitAuthority .web (inner ++ '/' :: cs) = some (authority, front ++ '/' :: cs) := by
  have stops : (!isSlash .web '/') = false := rfl
  simp only [splitAuthority]
  cases named : inner.dropWhile (isSlash .web) with
  | nil =>
    refine .inl ?_
    have slashes : ∀ c ∈ inner, isSlash .web c = true := by simpa using named
    rw [List.dropWhile_append_of_pos slashes]
    rfl
  | cons c r =>
    refine .inr ⟨(c :: r).takeWhile (!isSlash .web ·), (c :: r).dropWhile (!isSlash .web ·), ?_, ?_⟩
    · cases left : (c :: r).dropWhile (!isSlash .web ·) with
      | nil => exact .inl rfl
      | cons d rest =>
        have first := List.head?_dropWhile_not (!isSlash .web ·) (c :: r)
        rw [left] at first
        exact .inr ⟨d, rest, rfl, by simpa using first⟩
    · intro cs
      have parted : (inner ++ '/' :: cs).dropWhile (isSlash .web) = c :: r ++ '/' :: cs := by
        rw [List.dropWhile_append, named]
        rfl
      rw [parted, takeWhileStops stops, dropWhileStops stops]

theorem segmentsBehind {front : List Char}
    (slash : front = [] ∨ ∃ c r, front = c :: r ∧ isSlash .web c = true) :
    ∃ held, ∀ cs, pathSegments .web (front ++ '/' :: cs) =
      (resolve held (splitSlashes .web cs)).map String.ofList := by
  rcases slash with rfl | ⟨c, r, rfl, slash⟩
  · exact ⟨[], fun cs => rfl⟩
  · refine ⟨(splitSlashes .web r).foldl walk [], fun cs => ?_⟩
    simp only [pathSegments, List.cons_append, slash, if_true]
    rw [splitSlashesBehind webSlash, resolveBehind _ _ (splitSlashesNonempty _ cs)]

structure Parts (cs : List Char) (scheme : String) where
  named : List Char
  before : List Char
  fragment : Option (List Char)
  rest : List Char
  query : Option (List Char)
  authority : List Char
  path : List Char
  schemed : splitScheme cs = some (scheme, named)
  hash : cutAt (· == '#') named = (before, fragment)
  mark : cutAt (· == '?') before = (rest, query)
  apart : splitAuthority .web rest = some (authority, path)

def ofParts {cs : List Char} {scheme : String} (p : Parts cs scheme) (host : String)
    (number : Option Nat) : Url where
  scheme := scheme
  rooted := true
  host := some host
  portNumber := number
  segments := pathSegments .web p.path
  query := p.query.map fun q => String.ofList (Text.percentChars (keptInQuery .web) q)
  fragment := p.fragment.map fun f => String.ofList (Text.percentChars keptInFragment f)

theorem ofTextParts {s scheme : String} {cs : List Char} (chars : cleaned s.toList = cs)
    (web : mannerOf scheme = .web) (p : Parts cs scheme) : ofText s =
      (readAuthority .web scheme p.authority).map fun (host, number) => ofParts p host number := by
  subst chars
  have rooted : (Manner.web != Manner.other) = true := rfl
  unfold ofText
  simp only [p.schemed, web, p.hash, p.mark, p.apart, rooted, Option.getD_some, Bool.true_or,
    if_true, ne_eq, reduceCtorEq, not_false_eq_true, true_or]
  generalize readAuthority .web scheme p.authority = found
  cases found <;> rfl

theorem ofTextScheme {s : String} {u : Url} (read : ofText s = .ok u) :
    ∃ r, splitScheme (cleaned s.toList) = some (u.scheme, r) := by
  unfold ofText at read
  cases named : splitScheme (cleaned s.toList) with
  | none =>
    rw [named] at read
    cases read
  | some pair =>
    obtain ⟨scheme, r⟩ := pair
    simp only [named, bind, Except.bind] at read
    split at read
    · split at read
      · cases read
      · cases read
        exact ⟨r, rfl⟩
    · cases read
      exact ⟨r, rfl⟩

theorem readParts {s : String} {cs : List Char} {u : Url} (chars : cleaned s.toList = cs)
    (read : ofText s = .ok u) (web : mannerOf u.scheme = .web) :
    ∃ (p : Parts cs u.scheme) (host : String) (number : Option Nat),
      readAuthority .web u.scheme p.authority = .ok (host, number) ∧ u = ofParts p host number := by
  subst chars
  obtain ⟨r, schemed⟩ := ofTextScheme read
  let p : Parts (cleaned s.toList) u.scheme := ⟨r, _, _, _, _, _, _, schemed, rfl, rfl, rfl⟩
  refine ⟨p, ?_⟩
  rw [ofTextParts rfl web p] at read
  cases found : readAuthority .web u.scheme p.authority with
  | error fault =>
    rw [found] at read
    cases read
  | ok pair =>
    rw [found] at read
    exact ⟨pair.1, pair.2, rfl, (Except.ok.inj read).symm⟩

def behind (u : Url) (held : List (List Char)) (cs : List Char) : Url :=
  let (before, fragment) := cutAt (· == '#') cs
  let (path, query) := cutAt (· == '?') before
  { u with
    segments := (resolve held (splitSlashes .web path)).map String.ofList
    query := query.map fun q => String.ofList (Text.percentChars (keptInQuery .web) q)
    fragment := fragment.map fun f => String.ofList (Text.percentChars keptInFragment f) }

@[simp] theorem behindScheme (u : Url) (held : List (List Char)) (cs : List Char) :
    (u.behind held cs).scheme = u.scheme := rfl

@[simp] theorem behindHost (u : Url) (held : List (List Char)) (cs : List Char) :
    (u.behind held cs).host = u.host := rfl

/-- What of an address of the web is there whatever is set behind the slash at its end. -/
structure Stem (base : List Char) (scheme : String) where
  inner : List Char
  authority : List Char
  front : List Char
  goesOn : ∀ cs, splitScheme (base ++ '/' :: cs) = some (scheme, inner ++ '/' :: cs)
  hashless : ∀ c ∈ inner ++ ['/'], (c == '#') = false
  markless : ∀ c ∈ inner ++ ['/'], (c == '?') = false
  parted : ∀ cs, splitAuthority .web (inner ++ '/' :: cs) = some (authority, front ++ '/' :: cs)
  slash : front = [] ∨ ∃ c r, front = c :: r ∧ isSlash .web c = true

def Stem.parts {base : List Char} {scheme : String} (stem : Stem base scheme) (cs : List Char) :
    Parts (base ++ '/' :: cs) scheme :=
  let before := cutAt (· == '#') cs
  let path := cutAt (· == '?') before.1
  { named := stem.inner ++ '/' :: cs
    before := stem.inner ++ ['/'] ++ before.1
    fragment := before.2
    rest := stem.inner ++ '/' :: path.1
    query := path.2
    authority := stem.authority
    path := stem.front ++ '/' :: path.1
    schemed := stem.goesOn cs
    hash := by rw [List.append_cons, cutAtBehind stem.hashless]
    mark := by rw [cutAtBehind stem.markless, ← List.append_cons]
    apart := stem.parted path.1 }

theorem stemOf {base : List Char} {scheme : String} (p : Parts (base ++ ['/']) scheme)
    (queryless : p.query = none) (bare : p.fragment = none) (filled : p.authority ≠ []) :
    ∃ stem : Stem base scheme, p.authority = stem.authority ∧ p.path = stem.front ++ ['/'] := by
  obtain ⟨named, before, fragment, rest, query, authority, path, schemed, hash, mark, apart⟩ := p
  obtain rfl : query = none := queryless
  obtain rfl : fragment = none := bare
  obtain ⟨inner, rfl, goesOn⟩ := schemeBehind schemed
  obtain ⟨cutHash, hashless⟩ := cutAtNone (congrArg Prod.snd hash)
  obtain rfl : inner ++ ['/'] = before := congrArg Prod.fst (cutHash.symm.trans hash)
  obtain ⟨cutMark, markless⟩ := cutAtNone (congrArg Prod.snd mark)
  obtain rfl : inner ++ ['/'] = rest := congrArg Prod.fst (cutMark.symm.trans mark)
  rcases authorityBehind inner with empty | ⟨same, front, slash, parted⟩
  · rw [apart] at empty
    exact absurd (Option.some.inj empty) filled
  · obtain ⟨rfl, rfl⟩ := Prod.mk.inj (Option.some.inj ((parted []).symm.trans apart))
    exact ⟨⟨inner, same, front, goesOn, hashless, markless, parted, slash⟩, rfl, rfl⟩

theorem addressGoesOn {base : String} {u : Url} (read : ofText (base ++ "/") = .ok u)
    (web : mannerOf u.scheme = .web) (queryless : u.query = none) (bare : u.fragment = none) :
    ∃ held : List (List Char), u.segments = held.reverse.map String.ofList ++ [""] ∧
      ∀ cs, ofText (base ++ "/" ++ String.ofList cs) = .ok (u.behind held (tidied cs)) := by
  have chars (cs : List Char) : cleaned (base ++ "/" ++ String.ofList cs).toList =
      (base.toList.dropWhile isEdge).filter isInner ++ '/' :: tidied cs := by
    rw [← cleanedBehind]
    simp
  have ends : cleaned (base ++ "/").toList =
      (base.toList.dropWhile isEdge).filter isInner ++ ['/'] := by
    rw [String.toList_append]
    exact cleanedBehind base.toList []
  obtain ⟨p, host, number, found, made⟩ := readParts ends read web
  have noQuery : p.query = none := by
    simpa [ofParts] using (congrArg Url.query made).symm.trans queryless
  have noFragment : p.fragment = none := by
    simpa [ofParts] using (congrArg Url.fragment made).symm.trans bare
  have filled : p.authority ≠ [] := by
    intro empty
    rw [empty] at found
    cases found
  obtain ⟨stem, sameAuthority, path⟩ := stemOf p noQuery noFragment filled
  obtain ⟨held, segments⟩ := segmentsBehind stem.slash
  refine ⟨held, ?_, fun cs => ?_⟩
  · have own : u.segments = pathSegments .web p.path := congrArg Url.segments made
    rw [own, path, segments, splitSlashes, resolvePlain (by decide)]
    simp [Text.percentChars]
  · have ready : readAuthority .web u.scheme (stem.parts (tidied cs)).authority =
        .ok (host, number) := by
      rw [← found, sameAuthority]
      rfl
    have hosted : u.host = some host := congrArg Url.host made
    have numbered : u.portNumber = number := congrArg Url.portNumber made
    have rooted : u.rooted = true := congrArg Url.rooted made
    rw [ofTextParts (chars cs) web (stem.parts (tidied cs)), ready]
    refine congrArg Except.ok ?_
    simp only [ofParts, behind, Stem.parts, segments, hosted, numbered, rooted]

end ChaincodeConsole.Url
