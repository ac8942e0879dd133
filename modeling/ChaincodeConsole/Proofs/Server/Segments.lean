import ChaincodeConsole.Proofs.Server.Addresses
import ChaincodeConsole.Proofs.Text.Percents

/-! Texts as segments of a path. A plain one becomes a segment of its own that decodes to it, behind
whatever fixed words stand before it, and only a plain one does: every other text is cut, split,
walked over or decoded to something else. -/
namespace ChaincodeConsole.Url

theorem asciiAll {p : Char → Prop} (all : ∀ n < 128, p (Char.ofNat n)) {c : Char}
    (ascii : c.toNat < 128) : p c :=
  Char.ofNat_toNat c ▸ all c.toNat ascii

theorem hexAscii {c : Char} (hex : Text.hexValue? c ≠ none) : c.toNat < 128 := by
  simp only [Text.hexValue?, Char.le_def, UInt32.le_iff_toNat_le] at hex
  change c.val.toNat < 128
  split at hex
  · rename_i digit
    exact Nat.lt_of_le_of_lt digit.2 (by decide)
  · split at hex
    · rename_i lower
      exact Nat.lt_of_le_of_lt lower.2 (by decide)
    · split at hex
      · rename_i upper
        exact Nat.lt_of_le_of_lt upper.2 (by decide)
      · exact absurd rfl hex

theorem keptSound (c : Char) (lost : keptInPath c = false) : c ≠ '%' ∧ Text.hexValue? c = none := by
  by_cases ascii : c.toNat < 128
  · revert lost
    exact asciiAll (p := fun c => keptInPath c = false → c ≠ '%' ∧ Text.hexValue? c = none)
      (by decide) ascii
  · refine ⟨?_, ?_⟩
    · rintro rfl
      exact ascii (by decide)
    · by_contra hex
      exact ascii (hexAscii hex)

def marks : List Char := ['/', '\\', '?', '#', '\t', '\n', '\r']

structure Plain (cs : List Char) : Prop where
  unmarked : ∀ c ∈ cs, c ∉ marks
  still : cs ≠ ['.'] ∧ cs ≠ ['.', '.']
  unescaped : ¬Text.Escaped cs

def isWordChar (c : Char) : Bool := c.isAlphanum || c == '-'

def Word (cs : List Char) : Prop := ∀ c ∈ cs, isWordChar c = true

instance : DecidablePred Word :=
  fun cs => decidable_of_iff (cs.all isWordChar = true) List.all_eq_true

theorem wordChar {c : Char} (word : isWordChar c = true) :
    keptInPath c = true ∧ c ∉ marks ∧ c ≠ '.' ∧ c ≠ '%' ∧ isEdge c = false := by
  have ascii : c.toNat < 128 := by
    delta isWordChar Char.isAlphanum Char.isAlpha Char.isUpper Char.isLower Char.isDigit at word
    simp only [Bool.or_eq_true, Bool.and_eq_true, decide_eq_true_eq, beq_iff_eq, ge_iff_le,
      UInt32.le_iff_toNat_le] at word
    change c.val.toNat < 128
    rcases word with ((upper | lower) | digit) | rfl
    · exact Nat.lt_of_le_of_lt upper.2 (by decide)
    · exact Nat.lt_of_le_of_lt lower.2 (by decide)
    · exact Nat.lt_of_le_of_lt digit.2 (by decide)
    · decide
  revert word
  exact asciiAll (p := fun c => isWordChar c = true →
    keptInPath c = true ∧ c ∉ marks ∧ c ≠ '.' ∧ c ≠ '%' ∧ isEdge c = false) (by decide) ascii

theorem wordPlain {cs : List Char} (word : Word cs) : Plain cs where
  unmarked c inside := (wordChar (word c inside)).2.1
  still := by
    constructor <;> rintro rfl <;> exact absurd (word '.' (by simp)) (by decide)
  unescaped := by
    rintro ⟨before, a, b, behind, rfl, -⟩
    exact absurd (word '%' (by simp)) (by decide)

theorem wordKept {cs : List Char} (word : Word cs) : Text.percentChars keptInPath cs = cs :=
  Text.percentCharsKept fun c inside => (wordChar (word c inside)).1

theorem plainDotsKept {cs : List Char} (unescaped : ¬Text.Escaped cs) : plainDots cs = cs := by
  induction cs using plainDots.induct with
  | case1 r ih => exact absurd ⟨[], '2', 'e', r, rfl, by decide⟩ unescaped
  | case2 r ih => exact absurd ⟨[], '2', 'E', r, rfl, by decide⟩ unescaped
  | case3 c r lower upper ih =>
    rw [plainDots, ih fun inside => unescaped (Text.escapedCons.mpr (.inr inside))]
    · exact lower
    · exact upper
  | case4 => rfl

namespace Plain
variable {part : List Char} (plain : Plain part)
include plain

theorem noStep : ¬IsStep part := by
  rw [IsStep, plainDotsKept plain.unescaped]
  exact not_or.mpr plain.still.symm

theorem apart {c : Char} (mark : c ∈ marks) : ∀ d ∈ part, d ≠ c := by
  rintro d inside rfl
  exact plain.unmarked d inside mark

theorem unsplit : ∀ c ∈ part, isSlash .web c = false := by
  intro c inside
  have slash := plain.apart (c := '/') (by decide) c inside
  have back := plain.apart (c := '\\') (by decide) c inside
  simp [isSlash, slash, back]

theorem inner : part.filter isInner = part := by
  refine List.filter_eq_self.mpr fun c inside => ?_
  have tab := plain.apart (c := '\t') (by decide) c inside
  have feed := plain.apart (c := '\n') (by decide) c inside
  have back := plain.apart (c := '\r') (by decide) c inside
  simp [isInner, tab, feed, back]

theorem uncut {c : Char} (mark : c ∈ marks) : ∀ d ∈ part, (d == c) = false :=
  fun d inside => by simpa using plain.apart mark d inside

theorem tidiedOn (cs : List Char) : tidied (part ++ '/' :: cs) = part ++ '/' :: tidied cs := by
  rw [tidiedBehind (by decide), plain.inner]

theorem behindOn (u : Url) (held : List (List Char)) (cs : List Char) :
    u.behind held (part ++ '/' :: cs) =
      u.behind (Text.percentChars keptInPath part :: held) cs := by
  have free {c : Char} (mark : c ∈ marks) (slash : c ≠ '/') :
      ∀ d ∈ part ++ ['/'], (d == c) = false := by
    intro d inside
    rcases List.mem_append.mp inside with within | last
    · exact plain.uncut mark d within
    · cases List.mem_singleton.mp last
      simpa using slash.symm
  have hash := cutAtBehind (free (show '#' ∈ marks by decide) (by decide))
  have query := cutAtBehind (free (show '?' ∈ marks by decide) (by decide))
  have walked (cs : List Char) : resolve held (splitSlashes .web (part ++ ['/'] ++ cs)) =
      resolve (Text.percentChars keptInPath part :: held) (splitSlashes .web cs) := by
    rw [← List.append_cons, splitSlashesBehind webSlash, splitSlashesPlain plain.unsplit,
      resolveBehind held [part] (splitSlashesNonempty _ _), List.foldl_cons, List.foldl_nil,
      walkPlain plain.noStep]
  rw [List.append_cons]
  simp only [behind, hash, query, walked]

theorem behindLast (u : Url) (held : List (List Char)) : u.behind held part =
    { u with
      segments := held.reverse.map String.ofList ++
        [String.ofList (Text.percentChars keptInPath part)]
      query := none
      fragment := none } := by
  have whole {c : Char} (mark : c ∈ marks) : cutAt (· == c) part = (part, none) := by
    simpa [cutAt] using cutAtBehind (plain.uncut mark) []
  unfold behind
  rw [whole (c := '#') (by decide)]
  dsimp only
  rw [whole (c := '?') (by decide)]
  simp [splitSlashesPlain plain.unsplit, resolvePlain plain.noStep]

end Plain

def Closed (cs : List Char) : Prop := ∀ c, cs.getLast? = some c → 32 < c.toNat

theorem closedIff {cs : List Char} : Closed cs ↔ cs.rdropWhile isEdge = cs := by
  rw [List.rdropWhile_eq_self_iff]
  constructor
  · intro closed filled
    have last := closed _ (List.getLast?_eq_some_getLast filled)
    simpa [isEdge] using last
  · intro last c ends
    have filled : cs ≠ [] := by
      rintro rfl
      cases ends
    have same := Option.some.inj ((List.getLast?_eq_some_getLast filled).symm.trans ends)
    simpa [isEdge, same] using last filled

theorem wordClosed {word : List Char} (fixed : Word word) : Closed word := by
  intro c ends
  have inside := (wordChar (fixed c (List.mem_of_getLast? ends))).2.2.2.2
  simpa [isEdge] using inside

theorem tidiedClosed {cs : List Char} (plain : Plain cs) (closed : Closed cs) : tidied cs = cs := by
  rw [tidied, closedIff.mp closed, plain.inner]

theorem tidiedWord {word : List Char} (fixed : Word word) : tidied word = word :=
  tidiedClosed (wordPlain fixed) (wordClosed fixed)

theorem behindWords {front : List String} (words : ∀ s ∈ front, Word s.toList) (u : Url)
    (held : List (List Char)) (cs : List Char) :
    u.behind held (tidied (front.flatMap (·.toList ++ ['/']) ++ cs)) =
      u.behind ((front.map String.toList).reverse ++ held) (tidied cs) := by
  induction front generalizing held with
  | nil => rfl
  | cons s front ih =>
    obtain ⟨first, rest⟩ := List.forall_mem_cons.mp words
    have plain := wordPlain first
    rw [List.flatMap_cons, List.append_assoc, List.append_assoc, List.singleton_append,
      plain.tidiedOn, plain.behindOn, wordKept first, ih rest]
    simp

theorem plainWhole {cs path part : List Char} (inside : part ∈ splitSlashes .web path)
    (drawn : path.Sublist (cs.filter isInner)) (hashless : ∀ c ∈ path, (c == '#') = false)
    (queryless : ∀ c ∈ path, (c == '?') = false) (still : ¬IsStep part)
    (decoded : Text.percentDecoded (Text.percentChars keptInPath part) = Text.utf8Chars cs) :
    path = cs ∧ Plain cs := by
  obtain ⟨within, unsplit⟩ := splitSlashesPart inside
  have drawnPart := within.trans drawn
  obtain ⟨rfl, unescaped⟩ :=
    Text.decodedWhole keptSound (drawnPart.trans List.filter_sublist) decoded
  have inner : part.filter isInner = part := List.filter_sublist.antisymm drawnPart
  obtain rfl : path = part := (drawn.trans List.filter_sublist).antisymm within
  refine ⟨rfl, ?_, ?_, unescaped⟩
  · intro c within mark
    have kept := List.filter_eq_self.mp inner c within
    have slash := unsplit c within
    have hash := hashless c within
    have query := queryless c within
    simp only [marks, List.mem_cons, List.not_mem_nil, or_false] at mark
    rcases mark with rfl | rfl | rfl | rfl | rfl | rfl | rfl <;> contradiction
  · rw [IsStep, plainDotsKept unescaped, not_or] at still
    exact still.symm

theorem percentCharsEmpty {keep : Char → Bool} {cs : List Char} :
    Text.percentChars keep cs = [] ↔ cs = [] := by
  cases cs with
  | nil => simp
  | cons c cs =>
    obtain ⟨tail, written⟩ := Text.percentCharHead c
    rw [Text.percentCharsCons]
    split <;> simp [written]

theorem lastWhole {u : Url} {held : List (List Char)} {cs : List Char} {front : List String}
    {segment : String} (ends : (u.behind held (tidied cs)).segments = front ++ [segment])
    (decoded : Text.percentDecoded segment.toList = Text.utf8Chars cs) : Plain cs ∧ Closed cs := by
  simp only [behind] at ends
  obtain ⟨hashPrefix, hashless⟩ := cutAtPrefix (· == '#') (tidied cs)
  generalize (cutAt (· == '#') (tidied cs)).1 = before at *
  obtain ⟨markPrefix, markless⟩ := cutAtPrefix (· == '?') before
  generalize (cutAt (· == '?') before).1 = path at *
  have drawn : path.Sublist (tidied cs) := (markPrefix.trans hashPrefix).sublist
  obtain ⟨parts, part, split⟩ := (List.eq_nil_or_concat (splitSlashes .web path)).resolve_left
    (splitSlashesNonempty .web path)
  have last := congrArg List.getLast? ends
  rw [List.concat_eq_append] at split
  rw [split, List.getLast?_map, resolveLast, List.getLast?_concat] at last
  obtain rfl : String.ofList _ = segment := Option.some.inj last
  rw [String.toList_ofList] at decoded
  have trimmed : (cs.rdropWhile isEdge).Sublist cs := (List.rdropWhile_prefix isEdge cs).sublist
  by_cases step : IsStep part
  · rw [if_pos step] at decoded
    obtain rfl : [] = cs := Text.utf8CharsInjective decoded
    exact ⟨wordPlain (by simp [Word]), by simp [Closed]⟩
  · rw [if_neg step] at decoded
    obtain ⟨rfl, plain⟩ := plainWhole (split ▸ List.mem_concat_self)
      (drawn.trans (trimmed.filter isInner)) (fun c inside => hashless c (markPrefix.mem inside))
      markless step decoded
    have whole := drawn.trans List.filter_sublist
    exact ⟨plain, closedIff.mpr (trimmed.antisymm whole)⟩

theorem cutAtOver {p : Char → Bool} {back : List Char} (free : ∀ c ∈ back, p c = false)
    (cs : List Char) : (cutAt p (cs ++ back)).2 = none ∨
      ∃ r, (cutAt p (cs ++ back)).2 = some (r ++ back) := by
  have passed : back.dropWhile (!p ·) = [] := by simpa using free
  simp only [cutAt, List.dropWhile_append]
  cases cs.dropWhile (!p ·) with
  | nil =>
    simp only [List.isEmpty_nil, if_true, passed, true_or]
  | cons c r => exact .inr ⟨r, rfl⟩

theorem behindWord {u : Url} {held : List (List Char)} {cs word : List Char} (fixed : Word word)
    (bare : (u.behind held (cs ++ '/' :: word)).fragment = none)
    (queryless : (u.behind held (cs ++ '/' :: word)).query.getD "" = "") :
    (∀ c ∈ cs, (c == '#') = false) ∧ (∀ c ∈ cs, (c == '?') = false) ∧
      (u.behind held (cs ++ '/' :: word)).segments =
        (((splitSlashes .web cs).foldl walk held).reverse ++ [word]).map String.ofList := by
  have markFree : ∀ c ∈ '/' :: word, (c == '?') = false :=
    List.forall_mem_cons.mpr ⟨by decide, (wordPlain fixed).uncut (by decide)⟩
  simp only [behind, Option.map_eq_none_iff] at bare queryless ⊢
  obtain ⟨uncut, hashless⟩ := cutAtNone bare
  rw [uncut] at queryless ⊢
  have unasked : (cutAt (· == '?') (cs ++ '/' :: word)).2 = none := by
    rcases cutAtOver markFree cs with uncut | ⟨r, cut⟩
    · exact uncut
    · rw [cut] at queryless
      have empty := congrArg String.toList queryless
      simp [percentCharsEmpty] at empty
  obtain ⟨whole, markless⟩ := cutAtNone unasked
  refine ⟨fun c inside => hashless c (List.mem_append_left _ inside),
    fun c inside => markless c (List.mem_append_left _ inside), ?_⟩
  rw [whole, splitSlashesBehind webSlash, splitSlashesPlain (wordPlain fixed).unsplit,
    resolveBehind _ _ (List.cons_ne_nil _ _), resolvePlain (wordPlain fixed).noStep, wordKept fixed]

theorem innerWhole {u v : Url} {held : List (List Char)} {cs word : List Char} {segment : String}
    (fixed : Word word) (goes : u.behind held (tidied (cs ++ '/' :: word)) = v)
    (bare : v.fragment = none) (queryless : v.query.getD "" = "")
    (ends : v.segments = held.reverse.map String.ofList ++ [segment, String.ofList word])
    (decoded : Text.percentDecoded segment.toList = Text.utf8Chars cs) : Plain cs := by
  subst goes
  rw [tidiedBehind (by decide), tidiedWord fixed] at bare queryless ends
  obtain ⟨hashless, markless, walked⟩ := behindWord fixed bare queryless
  obtain ⟨news, kept, told, before, written⟩ :=
    walkNews (splitSlashes .web (cs.filter isInner)) held
  have named : (news ++ kept).reverse ++ [word] = (segment.toList :: held).reverse ++ [word] := by
    refine List.map_injective_iff.mpr (fun _ _ => String.ofList_injective) ?_
    rw [← told, ← walked, ends]
    simp
  replace told := List.reverse_injective (List.append_cancel_right named)
  -- There is one segment more than before, so a piece wrote it, and no step took it back.
  cases news with
  | nil =>
    obtain rfl : kept = segment.toList :: held := told
    exact absurd before.length_le (by simp)
  | cons new news =>
    obtain ⟨rfl, -⟩ := List.cons.inj told
    obtain ⟨part, inside, still, written⟩ := written _ List.mem_cons_self
    exact (plainWhole inside (List.Sublist.refl _) hashless markless still (written ▸ decoded)).2

end ChaincodeConsole.Url
