import Mathlib.Data.List.Basic
import Egress.Text.Utf8

/-!
# The bytes of a text

The bytes that a text is written as are read back as that text, character by character, and the byte
of a line end is among them exactly if the text has a line end. Bytes that no text is written as are
not looked at here.
-/

namespace Egress.Text.Utf8

theorem toNat_ofNat_of_lt {n : Nat} (small : n < 256) : (UInt8.ofNat n).toNat = n := by
  rw [UInt8.toNat_ofNat', Nat.mod_eq_of_lt small]

section Pieces

variable {a b c d low high : UInt8} {rest : List UInt8}

theorem not_ascii_of_le (lead : 0x80 ≤ a.toNat) : ¬ a < 0x80 := by
  simp only [UInt8.lt_iff_toNat_lt, UInt8.reduceToNat]
  omega

theorem pieceAt_two (lead : 0x80 ≤ a.toNat) (bounds : secondBounds a = some (low, high, 2))
    (second : low ≤ b ∧ b ≤ high) :
    pieceAt a (b :: rest) = .char (Char.ofNat (a.toNat % 32 * 64 + tailBits b)) 2 := by
  simp [pieceAt, not_ascii_of_le lead, bounds, second]

theorem pieceAt_three (lead : 0x80 ≤ a.toNat) (bounds : secondBounds a = some (low, high, 3))
    (second : low ≤ b ∧ b ≤ high) (third : isTail c = true) :
    pieceAt a (b :: c :: rest) =
      .char (Char.ofNat ((a.toNat % 16 * 64 + tailBits b) * 64 + tailBits c)) 3 := by
  simp [pieceAt, not_ascii_of_le lead, bounds, second, third]

theorem pieceAt_four (lead : 0x80 ≤ a.toNat) (bounds : secondBounds a = some (low, high, 4))
    (second : low ≤ b ∧ b ≤ high) (third : isTail c = true) (fourth : isTail d = true) :
    pieceAt a (b :: c :: d :: rest) =
      .char (Char.ofNat
        (((a.toNat % 8 * 64 + tailBits b) * 64 + tailBits c) * 64 + tailBits d)) 4 := by
  simp [pieceAt, not_ascii_of_le lead, bounds, second, third, fourth]

end Pieces

/-- A byte that carries six bits of a character behind the first one. -/
def tailByte (n : Nat) : UInt8 := UInt8.ofNat (n % 64 + 128)

theorem toNat_tailByte (n : Nat) : (tailByte n).toNat = n % 64 + 128 :=
  toNat_ofNat_of_lt (by omega)

theorem tailBits_tailByte (n : Nat) : tailBits (tailByte n) = n % 64 := by
  rw [tailBits, toNat_tailByte]
  omega

theorem tailByte_between {low high : UInt8} {n : Nat} (above : low.toNat ≤ n % 64 + 128)
    (below : n % 64 + 128 ≤ high.toNat) : low ≤ tailByte n ∧ tailByte n ≤ high := by
  rw [UInt8.le_iff_toNat_le, UInt8.le_iff_toNat_le, toNat_tailByte]
  exact ⟨above, below⟩

theorem isTail_tailByte (n : Nat) : isTail (tailByte n) = true := by
  have between : 0x80 ≤ tailByte n ∧ tailByte n ≤ 0xBF :=
    tailByte_between (show 0x80 ≤ _ by omega) (show _ ≤ 0xBF by omega)
  rw [isTail, Bool.and_eq_true, decide_eq_true_eq, decide_eq_true_eq]
  exact between

/-- The first byte of two allows the second one. -/
theorem exists_bounds_two {v : Nat} (low : 0x80 ≤ v) (high : v < 0x800) :
    ∃ l h, secondBounds (UInt8.ofNat (v / 64 + 192)) = some (l, h, 2) ∧
      l ≤ tailByte v ∧ tailByte v ≤ h := by
  have value := toNat_ofNat_of_lt (show v / 64 + 192 < 256 by omega)
  have lead : 0xC2 ≤ UInt8.ofNat (v / 64 + 192) ∧ UInt8.ofNat (v / 64 + 192) ≤ 0xDF := by
    simp only [UInt8.le_iff_toNat_le, UInt8.reduceToNat, value]
    omega
  refine ⟨0x80, 0xBF, by rw [secondBounds, if_pos lead], ?_⟩
  exact tailByte_between (show 0x80 ≤ _ by omega) (show _ ≤ 0xBF by omega)

/-- The first byte of three allows the second one, as surrogates are no characters. -/
theorem exists_bounds_three {v : Nat} (low : 0x800 ≤ v) (high : v < 0x10000)
    (single : v < 0xD800 ∨ 0xDFFF < v) :
    ∃ l h, secondBounds (UInt8.ofNat (v / 4096 + 224)) = some (l, h, 3) ∧
      l ≤ tailByte (v / 64) ∧ tailByte (v / 64) ≤ h := by
  by_cases first : v / 4096 = 0
  · refine ⟨0xA0, 0xBF, by rw [first]; rfl, ?_⟩
    exact tailByte_between (show 0xA0 ≤ _ by omega) (show _ ≤ 0xBF by omega)
  · by_cases near : v / 4096 = 13
    · refine ⟨0x80, 0x9F, by rw [near]; rfl, ?_⟩
      exact tailByte_between (show 0x80 ≤ _ by omega) (show _ ≤ 0x9F by omega)
    · have others : ∀ q : Fin 16, q.val ≠ 0 → q.val ≠ 13 →
          secondBounds (UInt8.ofNat (q.val + 224)) = some (0x80, 0xBF, 3) := by
        decide
      refine ⟨0x80, 0xBF, others ⟨v / 4096, by omega⟩ first near, ?_⟩
      exact tailByte_between (show 0x80 ≤ _ by omega) (show _ ≤ 0xBF by omega)

/-- The first byte of four allows the second one, up to the greatest character. -/
theorem exists_bounds_four {v : Nat} (low : 0x10000 ≤ v) (high : v < 0x110000) :
    ∃ l h, secondBounds (UInt8.ofNat (v / 262144 + 240)) = some (l, h, 4) ∧
      l ≤ tailByte (v / 4096) ∧ tailByte (v / 4096) ≤ h := by
  by_cases first : v / 262144 = 0
  · refine ⟨0x90, 0xBF, by rw [first]; rfl, ?_⟩
    exact tailByte_between (show 0x90 ≤ _ by omega) (show _ ≤ 0xBF by omega)
  · by_cases last : v / 262144 = 4
    · refine ⟨0x80, 0x8F, by rw [last]; rfl, ?_⟩
      exact tailByte_between (show 0x80 ≤ _ by omega) (show _ ≤ 0x8F by omega)
    · have others : ∀ q : Fin 4, q.val ≠ 0 →
          secondBounds (UInt8.ofNat (q.val + 240)) = some (0x80, 0xBF, 4) := by
        decide
      refine ⟨0x80, 0xBF, others ⟨v / 262144, by omega⟩ first, ?_⟩
      exact tailByte_between (show 0x80 ≤ _ by omega) (show _ ≤ 0xBF by omega)

/-- How a character is written, by its size. -/
inductive Written (c : Char) : List UInt8 → Prop where
  | one (high : c.toNat < 0x80) : Written c [UInt8.ofNat c.toNat]
  | two (low : 0x80 ≤ c.toNat) (high : c.toNat < 0x800) :
      Written c [UInt8.ofNat (c.toNat / 64 + 192), tailByte c.toNat]
  | three (low : 0x800 ≤ c.toNat) (high : c.toNat < 0x10000)
      (single : c.toNat < 0xD800 ∨ 0xDFFF < c.toNat) :
      Written c [UInt8.ofNat (c.toNat / 4096 + 224), tailByte (c.toNat / 64), tailByte c.toNat]
  | four (low : 0x10000 ≤ c.toNat) (high : c.toNat < 0x110000) :
      Written c [UInt8.ofNat (c.toNat / 262144 + 240), tailByte (c.toNat / 4096),
        tailByte (c.toNat / 64), tailByte c.toNat]

theorem utf8EncodeChar_eq (c : Char) :
    String.utf8EncodeChar c =
      if c.toNat ≤ 0x7F then [UInt8.ofNat c.toNat]
      else if c.toNat ≤ 0x7FF then [UInt8.ofNat (c.toNat / 64 % 32 + 192), tailByte c.toNat]
      else if c.toNat ≤ 0xFFFF then
        [UInt8.ofNat (c.toNat / 4096 % 16 + 224), tailByte (c.toNat / 64), tailByte c.toNat]
      else [UInt8.ofNat (c.toNat / 262144 % 8 + 240), tailByte (c.toNat / 4096),
        tailByte (c.toNat / 64), tailByte c.toNat] := rfl

theorem written (c : Char) : Written c (String.utf8EncodeChar c) := by
  have valid : c.toNat < 0xD800 ∨ 0xDFFF < c.toNat ∧ c.toNat < 0x110000 := c.valid
  rw [utf8EncodeChar_eq]
  by_cases one : c.toNat ≤ 0x7F
  · rw [if_pos one]
    exact .one (by omega)
  · by_cases two : c.toNat ≤ 0x7FF
    · rw [if_neg one, if_pos two, Nat.mod_eq_of_lt (by omega)]
      exact .two (by omega) (by omega)
    · by_cases three : c.toNat ≤ 0xFFFF
      · rw [if_neg one, if_neg two, if_pos three, Nat.mod_eq_of_lt (by omega)]
        exact .three (by omega) (by omega) (by omega)
      · rw [if_neg one, if_neg two, if_neg three, Nat.mod_eq_of_lt (by omega)]
        exact .four (by omega) (by omega)

/-- What is written for a character is one piece, whatever comes behind it. -/
theorem Written.pieceAt {c : Char} {a : UInt8} {tail : List UInt8} (h : Written c (a :: tail))
    (rest : List UInt8) : pieceAt a (tail ++ rest) = .char c (tail.length + 1) := by
  cases h with
  | one high =>
    have value := toNat_ofNat_of_lt (show c.toNat < 256 by omega)
    have ascii : UInt8.ofNat c.toNat < 0x80 := by
      simp only [UInt8.lt_iff_toNat_lt, UInt8.reduceToNat, value]
      exact high
    rw [Utf8.pieceAt, if_pos ascii, value, Char.ofNat_toNat]
    rfl
  | two low high =>
    obtain ⟨l, h, bounds, second⟩ := exists_bounds_two low high
    have value := toNat_ofNat_of_lt (show c.toNat / 64 + 192 < 256 by omega)
    have whole : (c.toNat / 64 + 192) % 32 * 64 + c.toNat % 64 = c.toNat := by omega
    rw [List.singleton_append, pieceAt_two (by omega) bounds second, value, tailBits_tailByte,
      whole, Char.ofNat_toNat]
    rfl
  | three low high single =>
    obtain ⟨l, h, bounds, second⟩ := exists_bounds_three low high single
    have value := toNat_ofNat_of_lt (show c.toNat / 4096 + 224 < 256 by omega)
    have whole : ((c.toNat / 4096 + 224) % 16 * 64 + c.toNat / 64 % 64) * 64 + c.toNat % 64 =
        c.toNat := by
      omega
    rw [List.cons_append, List.singleton_append,
      pieceAt_three (by omega) bounds second (isTail_tailByte _), value, tailBits_tailByte,
      tailBits_tailByte, whole, Char.ofNat_toNat]
    rfl
  | four low high =>
    obtain ⟨l, h, bounds, second⟩ := exists_bounds_four low high
    have value := toNat_ofNat_of_lt (show c.toNat / 262144 + 240 < 256 by omega)
    have whole : (((c.toNat / 262144 + 240) % 8 * 64 + c.toNat / 4096 % 64) * 64 +
        c.toNat / 64 % 64) * 64 + c.toNat % 64 = c.toNat := by
      omega
    rw [List.cons_append, List.cons_append, List.singleton_append,
      pieceAt_four (by omega) bounds second (isTail_tailByte _) (isTail_tailByte _), value,
      tailBits_tailByte, tailBits_tailByte, tailBits_tailByte, whole, Char.ofNat_toNat]
    rfl

theorem not_written_nil {c : Char} : ¬ Written c [] := by
  intro h
  cases h

/-- All bytes of a character beyond ASCII are beyond ASCII. -/
theorem Written.high {c : Char} {bytes : List UInt8} (h : Written c bytes)
    (beyond : 0x80 ≤ c.toNat) : ∀ b ∈ bytes, 0x80 ≤ b.toNat := by
  have tail : ∀ n, 0x80 ≤ (tailByte n).toNat := by
    intro n
    rw [toNat_tailByte]
    omega
  have lead : ∀ n, 0x80 ≤ n → n < 256 → 0x80 ≤ (UInt8.ofNat n).toNat := by
    intro n low high
    rw [toNat_ofNat_of_lt high]
    exact low
  cases h with
  | one high => omega
  | two low high => simpa [tail] using lead (c.toNat / 64 + 192) (by omega) (by omega)
  | three low high => simpa [tail] using lead (c.toNat / 4096 + 224) (by omega) (by omega)
  | four low high => simpa [tail] using lead (c.toNat / 262144 + 240) (by omega) (by omega)

/-- Only a line end has the byte of a line end. -/
theorem Written.ten_mem_iff {c : Char} {bytes : List UInt8} (h : Written c bytes) :
    10 ∈ bytes ↔ c = '\n' := by
  by_cases beyond : 0x80 ≤ c.toNat
  · constructor
    · intro mem
      have high : 0x80 ≤ 10 := h.high beyond 10 mem
      omega
    · rintro rfl
      exact absurd beyond (by decide)
  · have single : bytes = [UInt8.ofNat c.toNat] := by
      cases h with
      | one high => rfl
      | two low | three low | four low => omega
    rw [single, List.mem_singleton]
    constructor
    · intro same
      have value := toNat_ofNat_of_lt (show c.toNat < 256 by omega)
      rw [← same] at value
      rw [← c.ofNat_toNat, ← value]
      rfl
    · rintro rfl
      rfl

theorem piecesAfter_append (xs ys : List UInt8) :
    piecesAfter xs.length (xs ++ ys) = pieces ys := by
  induction xs with
  | nil => rfl
  | cons x xs ih => exact ih

theorem pieces_written {c : Char} {bytes : List UInt8} (h : Written c bytes)
    (rest : List UInt8) : pieces (bytes ++ rest) = .char c bytes.length :: pieces rest := by
  cases bytes with
  | nil => exact absurd h not_written_nil
  | cons a tail =>
    have after := piecesAfter_append tail rest
    rw [List.cons_append, pieces, piecesAfter, h.pieceAt]
    exact congrArg _ after

theorem collect_encodeChars (cs : List Char) (index : Nat) :
    collect index (pieces (encodeChars cs)) = .ok cs := by
  induction cs generalizing index with
  | nil => rfl
  | cons c cs ih =>
    have split : encodeChars (c :: cs) = String.utf8EncodeChar c ++ encodeChars cs := rfl
    rw [split, pieces_written (written c), collect, ih]
    rfl

/-- A text is read back from its bytes. -/
theorem decode_encode (s : String) : decode (encode s) = .ok s := by
  rw [decode, encode, collect_encodeChars]
  exact congrArg Except.ok String.ofList_toList

theorem encodeChars_append (xs ys : List Char) :
    encodeChars (xs ++ ys) = encodeChars xs ++ encodeChars ys :=
  List.flatMap_append

theorem encode_append (s t : String) : encode (s ++ t) = encode s ++ encode t := by
  rw [encode, String.toList_append, encodeChars_append]
  rfl

/-- The byte of a line end stands for a line end and nothing else. -/
theorem ten_mem_encode_iff (s : String) : 10 ∈ encode s ↔ '\n' ∈ s.toList := by
  rw [encode, encodeChars, List.mem_flatMap]
  constructor
  · rintro ⟨c, mem, ten⟩
    rw [(written c).ten_mem_iff] at ten
    exact ten ▸ mem
  · intro mem
    exact ⟨'\n', mem, (written '\n').ten_mem_iff.mpr rfl⟩

end Egress.Text.Utf8
