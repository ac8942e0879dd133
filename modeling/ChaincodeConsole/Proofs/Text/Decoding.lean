import ChaincodeConsole.Proofs.Text.Encoding

/-! Bytes that are text. Strict reading gives a text exactly for the bytes that are written of it,
so it refuses just those that no text is written as. -/
namespace ChaincodeConsole.Text

theorem openedNext {o : Opened} {bytes : List UInt8} {cs : List Char}
    (read : pieces (some o) bytes = cs.map some) : ∃ b rest, bytes = b :: rest ∧
      o.low ≤ b.toNat ∧ b.toNat ≤ o.high ∧
      if o.missing = 1 then ∃ later,
        cs = Char.ofNat (o.bits * 64 + (b.toNat - 0x80)) :: later ∧
          pieces none rest = later.map some
      else pieces (some ⟨o.bits * 64 + (b.toNat - 0x80), o.missing - 1, 0x80, 0xBF⟩) rest =
        cs.map some := by
  have whole : none ∉ cs.map some := by simp
  cases bytes with
  | nil =>
    rw [← read] at whole
    exact absurd List.mem_cons_self whole
  | cons b rest =>
    rw [pieces] at read
    split at read
    · rename_i inside
      refine ⟨b, rest, rfl, inside.1, inside.2, ?_⟩
      dsimp only at read
      split at read
      · rename_i last
        obtain ⟨c, later, rfl, first, others⟩ := List.map_eq_cons_iff.mp read.symm
        rw [if_pos last, ← Option.some.inj first]
        exact ⟨later, rfl, others.symm⟩
      · rename_i more
        rw [if_neg more]
        exact read
    · rw [← read] at whole
      split at whole <;> exact absurd List.mem_cons_self whole

theorem openedLast {bits low high : Nat} {bytes : List UInt8} {cs : List Char}
    (read : pieces (some ⟨bits, 1, low, high⟩) bytes = cs.map some) : ∃ b rest later,
      bytes = b :: rest ∧ low ≤ b.toNat ∧ b.toNat ≤ high ∧
        cs = Char.ofNat (bits * 64 + (b.toNat - 0x80)) :: later ∧
        pieces none rest = later.map some := by
  obtain ⟨b, rest, first, least, most, next⟩ := openedNext read
  rw [if_pos rfl] at next
  obtain ⟨later, front, others⟩ := next
  exact ⟨b, rest, later, first, least, most, front, others⟩

theorem openedMore {bits missing low high : Nat} {bytes : List UInt8} {cs : List Char}
    (read : pieces (some ⟨bits, missing + 2, low, high⟩) bytes = cs.map some) : ∃ b rest,
      bytes = b :: rest ∧ low ≤ b.toNat ∧ b.toNat ≤ high ∧
        pieces (some ⟨bits * 64 + (b.toNat - 0x80), missing + 1, 0x80, 0xBF⟩) rest =
          cs.map some := by
  obtain ⟨b, rest, first, least, most, next⟩ := openedNext read
  rw [if_neg (by simp)] at next
  exact ⟨b, rest, first, least, most, next⟩

theorem leadOpened {b : UInt8} {o : Opened} (opened : lead b = .opened o) :
    (0xC2 ≤ b.toNat ∧ b.toNat < 0xE0 ∧ o.bits = b.toNat - 0xC0 ∧ o.missing = 1 ∧
      0x80 ≤ o.low ∧ o.high ≤ 0xBF) ∨
    (0xE0 ≤ b.toNat ∧ b.toNat < 0xF0 ∧ o.bits = b.toNat - 0xE0 ∧ o.missing = 2 ∧
      0x80 ≤ o.low ∧ o.high ≤ 0xBF ∧ (b.toNat = 0xE0 → 0xA0 ≤ o.low) ∧
      (b.toNat = 0xED → o.high ≤ 0x9F)) ∨
    (0xF0 ≤ b.toNat ∧ b.toNat < 0xF5 ∧ o.bits = b.toNat - 0xF0 ∧ o.missing = 3 ∧
      0x80 ≤ o.low ∧ o.high ≤ 0xBF ∧ (b.toNat = 0xF0 → 0x90 ≤ o.low) ∧
      (b.toNat = 0xF4 → o.high ≤ 0x8F)) := by
  unfold lead at opened
  dsimp only at opened
  repeat' split at opened
  all_goals simp only [Lead.opened.injEq, reduceCtorEq] at opened
  all_goals
    subst opened
    dsimp only
    omega

theorem byteIs {b : UInt8} {n : Nat} (same : b.toNat = n) : UInt8.ofNat n = b :=
  same ▸ UInt8.ofNat_toNat

theorem encodedNumber {n : Nat} (scalar : n < 0xD800 ∨ 0xDFFF < n ∧ n < 0x110000) :
    (Char.ofNat n).toNat = n := by
  have valid : n.isValidChar := scalar
  rw [Char.ofNat, dif_pos valid]
  rfl

theorem twoWritten {n : Nat} (low : 0x80 ≤ n) (high : n < 0x800) :
    String.utf8EncodeChar (Char.ofNat n) = [UInt8.ofNat (n / 64 + 0xC0), trailByte n] := by
  have cases := encodedCases (Char.ofNat n)
  rw [encodedNumber (by omega)] at cases
  rcases cases with ⟨small, -⟩ | ⟨-, -, written⟩ | ⟨large, -⟩ | ⟨large, -⟩
  · omega
  · exact written
  · omega
  · omega

theorem threeWritten {n : Nat} (low : 0x800 ≤ n) (high : n < 0x10000)
    (scalar : n < 0xD800 ∨ 0xDFFF < n) : String.utf8EncodeChar (Char.ofNat n) =
      [UInt8.ofNat (n / 4096 + 0xE0), trailByte (n / 64), trailByte n] := by
  have cases := encodedCases (Char.ofNat n)
  rw [encodedNumber (by omega)] at cases
  rcases cases with ⟨small, -⟩ | ⟨-, small, -⟩ | ⟨-, -, written⟩ | ⟨large, -⟩
  · omega
  · omega
  · exact written
  · omega

theorem fourWritten {n : Nat} (low : 0x10000 ≤ n) (high : n < 0x110000) :
    String.utf8EncodeChar (Char.ofNat n) = [UInt8.ofNat (n / 262144 + 0xF0),
      trailByte (n / 4096), trailByte (n / 64), trailByte n] := by
  have cases := encodedCases (Char.ofNat n)
  rw [encodedNumber (by omega)] at cases
  rcases cases with ⟨small, -⟩ | ⟨-, small, -⟩ | ⟨-, small, -⟩ | ⟨-, -, written⟩
  · omega
  · omega
  · omega
  · exact written

theorem openedRead {b : UInt8} {o : Opened} (opened : lead b = .opened o) {bytes : List UInt8}
    {cs : List Char} (read : pieces (some o) bytes = cs.map some) : ∃ c later rest,
      cs = c :: later ∧ b :: bytes = String.utf8EncodeChar c ++ rest ∧
        pieces none rest = later.map some := by
  have shape := leadOpened opened
  obtain ⟨bits, missing, low, high⟩ := o
  dsimp only at shape
  rcases shape with ⟨least, most, front, count, range⟩ | ⟨least, most, front, count, range⟩ |
    ⟨least, most, front, count, range⟩ <;> rw [front, count] at read
  · obtain ⟨b₁, rest, later, rfl, low₁, high₁, rfl, others⟩ := openedLast read
    refine ⟨_, later, rest, rfl, ?_, others⟩
    rw [twoWritten (by omega) (by omega), trailByte, byteIs (b := b) (by omega),
      byteIs (b := b₁) (by omega)]
    rfl
  · obtain ⟨b₁, rest₁, rfl, low₁, high₁, read⟩ := openedMore read
    obtain ⟨b₂, rest, later, rfl, low₂, high₂, rfl, others⟩ := openedLast read
    refine ⟨_, later, rest, rfl, ?_, others⟩
    rw [threeWritten (by omega) (by omega) (by omega), trailByte, trailByte,
      byteIs (b := b) (by omega), byteIs (b := b₁) (by omega), byteIs (b := b₂) (by omega)]
    rfl
  · obtain ⟨b₁, rest₁, rfl, low₁, high₁, read⟩ := openedMore read
    obtain ⟨b₂, rest₂, rfl, low₂, high₂, read⟩ := openedMore read
    obtain ⟨b₃, rest, later, rfl, low₃, high₃, rfl, others⟩ := openedLast read
    refine ⟨_, later, rest, rfl, ?_, others⟩
    rw [fourWritten (by omega) (by omega), trailByte, trailByte, trailByte,
      byteIs (b := b) (by omega), byteIs (b := b₁) (by omega), byteIs (b := b₂) (by omega),
      byteIs (b := b₃) (by omega)]
    rfl

theorem leadAscii {b : UInt8} {c : Char} (ascii : lead b = .ascii c) :
    String.utf8EncodeChar c = [b] := by
  unfold lead at ascii
  dsimp only at ascii
  split at ascii
  · rename_i small
    have number := encodedNumber (n := b.toNat) (by omega)
    rw [← Lead.ascii.inj ascii]
    rcases encodedCases (Char.ofNat b.toNat) with ⟨-, written⟩ | ⟨large, -⟩ | ⟨large, -⟩ |
      ⟨large, -⟩
    · rw [written, number, UInt8.ofNat_toNat]
    · omega
    · omega
    · omega
  · repeat' split at ascii
    all_goals simp only [reduceCtorEq] at ascii

theorem firstRead {b : UInt8} {bytes : List UInt8} {cs : List Char}
    (read : pieces none (b :: bytes) = cs.map some) : ∃ c later rest,
      cs = c :: later ∧ b :: bytes = String.utf8EncodeChar c ++ rest ∧
        pieces none rest = later.map some := by
  rw [pieces] at read
  split at read
  · rename_i ascii
    obtain ⟨c, later, rfl, first, others⟩ := List.map_eq_cons_iff.mp read.symm
    refine ⟨c, later, bytes, rfl, ?_, others.symm⟩
    rw [Option.some.inj first, leadAscii ascii]
    rfl
  · rename_i opened
    exact openedRead opened read
  · obtain ⟨c, later, rfl, first, others⟩ := List.map_eq_cons_iff.mp read.symm
    cases first

theorem piecesWritten {bytes : List UInt8} {cs : List Char}
    (read : pieces none bytes = cs.map some) : bytes = utf8Chars cs := by
  induction cs generalizing bytes with
  | nil =>
    cases bytes with
    | nil => rfl
    | cons b bytes =>
      obtain ⟨c, later, rest, more, -⟩ := firstRead read
      cases more
  | cons c cs ih =>
    cases bytes with
    | nil => cases read
    | cons b bytes =>
      obtain ⟨d, later, rest, same, front, others⟩ := firstRead read
      cases same
      rw [front, ih others, utf8Chars, utf8Chars, List.flatMap_cons]

theorem everyRead {α : Type} {items : List (Option α)} {all : List α}
    (read : items.mapM id = some all) : items = all.map some := by
  induction items generalizing all with
  | nil =>
    cases read
    rfl
  | cons item items ih =>
    rw [List.mapM_cons] at read
    obtain ⟨a, first, rest⟩ := Option.bind_eq_some_iff.mp read
    obtain ⟨others, later, same⟩ := Option.bind_eq_some_iff.mp rest
    cases same
    rw [List.map_cons, ← ih later]
    exact congrArg (· :: items) first

theorem strictIff {bytes : List UInt8} {s : String} :
    strict? bytes = some s ↔ bytes = utf8 s := by
  constructor
  · intro read
    obtain ⟨cs, every, rfl⟩ := Option.map_eq_some_iff.mp read
    rw [utf8, String.toList_ofList]
    exact piecesWritten (everyRead every)
  · rintro rfl
    rw [utf8, strictEncoded, String.ofList_toList]

theorem strictNone {bytes : List UInt8} : strict? bytes = none ↔ ∀ s, bytes ≠ utf8 s := by
  rw [Option.eq_none_iff_forall_ne_some]
  exact forall_congr' fun s => not_congr strictIff

theorem utf8Injective {s t : String} (same : utf8 s = utf8 t) : s = t :=
  Option.some.inj ((strictIff.mpr rfl).symm.trans (strictIff.mpr same))

end ChaincodeConsole.Text
