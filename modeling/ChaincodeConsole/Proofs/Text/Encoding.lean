import ChaincodeConsole.Text.Utf8

/-! Text as bytes and back. What is written of a character is read as that character, and no byte
of it lies in the ASCII range unless the character does. -/
namespace ChaincodeConsole.Text

def trailByte (n : Nat) : UInt8 := UInt8.ofNat (n % 64 + 0x80)

theorem byteOf {n : Nat} (small : n < 256) : (UInt8.ofNat n).toNat = n :=
  UInt8.toNat_ofNat_of_lt' small

theorem piecesLast {bits low high n : Nat} (inside : low ≤ n % 64 + 0x80 ∧ n % 64 + 0x80 ≤ high)
    (front : bits = n / 64) (rest : List UInt8) :
    pieces (some ⟨bits, 1, low, high⟩) (trailByte n :: rest) =
      some (Char.ofNat n) :: pieces none rest := by
  have byte : (trailByte n).toNat = n % 64 + 0x80 := byteOf (by omega)
  have whole : bits * 64 + (n % 64 + 0x80 - 0x80) = n := by omega
  simp only [pieces, byte, if_pos inside, if_true, whole]

theorem piecesMore {bits missing low high n : Nat}
    (inside : low ≤ n % 64 + 0x80 ∧ n % 64 + 0x80 ≤ high) (front : bits = n / 64)
    (rest : List UInt8) :
    pieces (some ⟨bits, missing + 2, low, high⟩) (trailByte n :: rest) =
      pieces (some ⟨n, missing + 1, 0x80, 0xBF⟩) rest := by
  have byte : (trailByte n).toNat = n % 64 + 0x80 := byteOf (by omega)
  have whole : bits * 64 + (n % 64 + 0x80 - 0x80) = n := by omega
  simp only [pieces, byte, if_pos inside, whole]
  rw [if_neg (by omega)]
  rfl

theorem trailInside (n : Nat) : 0x80 ≤ n % 64 + 0x80 ∧ n % 64 + 0x80 ≤ 0xBF := by omega

theorem piecesOpen {b : UInt8} {o : Opened} (opened : lead b = .opened o) (rest : List UInt8) :
    pieces none (b :: rest) = pieces (some o) rest := by
  simp only [pieces, opened]

theorem leadOne {n : Nat} (small : n < 0x80) : lead (UInt8.ofNat n) = .ascii (Char.ofNat n) := by
  simp only [lead, byteOf (show n < 256 by omega), if_pos small]

theorem leadTwo {n : Nat} (low : 0x80 ≤ n) (high : n < 0x800) :
    lead (UInt8.ofNat (n / 64 + 0xC0)) = .opened ⟨n / 64, 1, 0x80, 0xBF⟩ := by
  simp only [lead, byteOf (show n / 64 + 0xC0 < 256 by omega)]
  rw [if_neg (by omega), if_neg (by omega), if_pos (by omega), Nat.add_sub_cancel]

theorem leadThree {n : Nat} (low : 0x800 ≤ n) (high : n < 0x10000)
    (scalar : n < 0xD800 ∨ 0xDFFF < n) : ∃ least most,
      lead (UInt8.ofNat (n / 4096 + 0xE0)) = .opened ⟨n / 4096, 2, least, most⟩ ∧
      least ≤ n / 64 % 64 + 0x80 ∧ n / 64 % 64 + 0x80 ≤ most := by
  simp only [lead, byteOf (show n / 4096 + 0xE0 < 256 by omega)]
  rw [if_neg (by omega), if_neg (by omega), if_neg (by omega)]
  by_cases first : n / 4096 = 0
  · exact ⟨0xA0, 0xBF, by simp [first], by omega, by omega⟩
  · rw [if_neg (by omega)]
    by_cases surrogates : n / 4096 = 13
    · exact ⟨0x80, 0x9F, by simp [surrogates], by omega, by omega⟩
    · rw [if_neg (by omega), if_pos (by omega), Nat.add_sub_cancel]
      exact ⟨0x80, 0xBF, rfl, trailInside _⟩

theorem leadFour {n : Nat} (low : 0x10000 ≤ n) (high : n < 0x110000) : ∃ least most,
    lead (UInt8.ofNat (n / 262144 + 0xF0)) = .opened ⟨n / 262144, 3, least, most⟩ ∧
      least ≤ n / 4096 % 64 + 0x80 ∧ n / 4096 % 64 + 0x80 ≤ most := by
  simp only [lead, byteOf (show n / 262144 + 0xF0 < 256 by omega)]
  rw [if_neg (by omega), if_neg (by omega), if_neg (by omega), if_neg (by omega),
    if_neg (by omega), if_neg (by omega)]
  by_cases first : n / 262144 = 0
  · exact ⟨0x90, 0xBF, by simp [first], by omega, by omega⟩
  · rw [if_neg (by omega)]
    by_cases last : n / 262144 = 4
    · exact ⟨0x80, 0x8F, by simp [last], by omega, by omega⟩
    · rw [if_pos (by omega), Nat.add_sub_cancel]
      exact ⟨0x80, 0xBF, rfl, trailInside _⟩

theorem encodedCases (c : Char) :
    (c.toNat < 0x80 ∧ String.utf8EncodeChar c = [UInt8.ofNat c.toNat]) ∨
    (0x80 ≤ c.toNat ∧ c.toNat < 0x800 ∧ String.utf8EncodeChar c =
      [UInt8.ofNat (c.toNat / 64 + 0xC0), trailByte c.toNat]) ∨
    (0x800 ≤ c.toNat ∧ c.toNat < 0x10000 ∧ String.utf8EncodeChar c =
      [UInt8.ofNat (c.toNat / 4096 + 0xE0), trailByte (c.toNat / 64), trailByte c.toNat]) ∨
    (0x10000 ≤ c.toNat ∧ c.toNat < 0x110000 ∧ String.utf8EncodeChar c =
      [UInt8.ofNat (c.toNat / 262144 + 0xF0), trailByte (c.toNat / 4096),
        trailByte (c.toNat / 64), trailByte c.toNat]) := by
  have scalar : c.toNat < 0xD800 ∨ 0xDFFF < c.toNat ∧ c.toNat < 0x110000 := c.valid
  simp only [String.utf8EncodeChar, show c.val.toNat = c.toNat from rfl]
  by_cases one : c.toNat ≤ 0x7F
  · rw [if_pos one]
    exact .inl ⟨by omega, rfl⟩
  · rw [if_neg one]
    by_cases two : c.toNat ≤ 0x7FF
    · rw [if_pos two, Nat.mod_eq_of_lt (show c.toNat / 64 < 0x20 by omega)]
      exact .inr (.inl ⟨by omega, by omega, rfl⟩)
    · rw [if_neg two]
      by_cases three : c.toNat ≤ 0xFFFF
      · rw [if_pos three, Nat.mod_eq_of_lt (show c.toNat / 4096 < 0x10 by omega)]
        exact .inr (.inr (.inl ⟨by omega, by omega, rfl⟩))
      · rw [if_neg three, Nat.mod_eq_of_lt (show c.toNat / 262144 < 0x08 by omega)]
        exact .inr (.inr (.inr ⟨by omega, by omega, rfl⟩))

theorem piecesEncoded (c : Char) (rest : List UInt8) :
    pieces none (String.utf8EncodeChar c ++ rest) = some c :: pieces none rest := by
  have same : Char.ofNat c.toNat = c := Char.ofNat_toNat c
  rcases encodedCases c with ⟨small, bytes⟩ | ⟨low, high, bytes⟩ | ⟨low, high, bytes⟩ |
    ⟨low, high, bytes⟩ <;> rw [bytes]
  · simp only [List.singleton_append, pieces, leadOne small, same]
  · simp only [List.cons_append, List.nil_append]
    rw [piecesOpen (leadTwo low high), piecesLast (trailInside _) rfl, same]
  · have scalar : c.toNat < 0xD800 ∨ 0xDFFF < c.toNat ∧ c.toNat < 0x110000 := c.valid
    obtain ⟨least, most, opened, inside⟩ := leadThree low high (by omega)
    simp only [List.cons_append, List.nil_append]
    rw [piecesOpen opened, piecesMore inside (by omega), piecesLast (trailInside _) rfl, same]
  · obtain ⟨least, most, opened, inside⟩ := leadFour low high
    simp only [List.cons_append, List.nil_append]
    rw [piecesOpen opened, piecesMore inside (by omega), piecesMore (trailInside _) (by omega),
      piecesLast (trailInside _) rfl, same]

theorem encodedAppend (a b : List Char) : utf8Chars (a ++ b) = utf8Chars a ++ utf8Chars b :=
  List.flatMap_append

theorem encodedPieces (cs : List Char) : pieces none (utf8Chars cs) = cs.map some := by
  induction cs with
  | nil => rfl
  | cons c cs ih => rw [utf8Chars, List.flatMap_cons, piecesEncoded, ← utf8Chars, ih]; rfl

theorem lossyEncoded (cs : List Char) : lossyChars (utf8Chars cs) = cs := by
  rw [lossyChars, encodedPieces, List.map_map]
  exact List.map_id cs

theorem strictEncoded (cs : List Char) : strict? (utf8Chars cs) = some (String.ofList cs) := by
  have whole : (cs.map some).mapM id = some cs := by
    induction cs with
    | nil => rfl
    | cons c cs ih => rw [List.map_cons, List.mapM_cons, ih]; rfl
  rw [strict?, encodedPieces, whole, Option.map_some]

theorem encodedAscii {c : Char} {b : UInt8} (ascii : b.toNat < 0x80)
    (inside : b ∈ String.utf8EncodeChar c) : c.toNat = b.toNat := by
  have trail (n : Nat) : (trailByte n).toNat = n % 64 + 0x80 := byteOf (by omega)
  rcases encodedCases c with ⟨small, bytes⟩ | ⟨low, high, bytes⟩ | ⟨low, high, bytes⟩ |
    ⟨low, high, bytes⟩ <;> rw [bytes] at inside <;> simp only [List.mem_cons, List.not_mem_nil,
      or_false] at inside
  · rw [inside, byteOf (by omega)]
  · rcases inside with rfl | rfl
    · rw [byteOf (by omega)] at ascii
      omega
    · rw [trail] at ascii
      omega
  · rcases inside with rfl | rfl | rfl
    · rw [byteOf (by omega)] at ascii
      omega
    all_goals
      rw [trail] at ascii
      omega
  · rcases inside with rfl | rfl | rfl | rfl
    · rw [byteOf (by omega)] at ascii
      omega
    all_goals
      rw [trail] at ascii
      omega

theorem encodedPlain {cs : List Char} (plain : ∀ c ∈ cs, c.toNat ≠ 10) : 10 ∉ utf8Chars cs := by
  intro inside
  obtain ⟨c, held, byte⟩ := List.mem_flatMap.mp inside
  exact plain c held (encodedAscii (by decide) byte)

end ChaincodeConsole.Text
