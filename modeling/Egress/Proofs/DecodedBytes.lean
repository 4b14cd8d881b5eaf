import Egress.Proofs.EncodedTexts

/-!
# The text of bytes

Bytes that are read as a text are what that text is written as, so that each text has one form in
bytes and reading accepts nothing else: no form longer than needed, no surrogate and nothing beyond
the greatest character. The bounds on the second byte are what keeps these out.
-/

namespace Egress.Text.Utf8

/-- The bounds of a second byte, by the size they stand for: within them the character has that
size, is no surrogate and is not beyond the greatest one. -/
theorem bounds_cases {a low high : UInt8} {size : Nat}
    (bounds : secondBounds a = some (low, high, size)) :
    (size = 2 ∧ 0xC2 ≤ a.toNat ∧ a.toNat ≤ 0xDF ∧ 0x80 ≤ low.toNat ∧ high.toNat ≤ 0xBF) ∨
    (size = 3 ∧ 0xE0 ≤ a.toNat ∧ a.toNat ≤ 0xEF ∧ 0x80 ≤ low.toNat ∧ high.toNat ≤ 0xBF ∧
      (a.toNat = 0xE0 → 0xA0 ≤ low.toNat) ∧ (a.toNat = 0xED → high.toNat ≤ 0x9F)) ∨
    (size = 4 ∧ 0xF0 ≤ a.toNat ∧ a.toNat ≤ 0xF4 ∧ 0x80 ≤ low.toNat ∧ high.toNat ≤ 0xBF ∧
      (a.toNat = 0xF0 → 0x90 ≤ low.toNat) ∧ (a.toNat = 0xF4 → high.toNat ≤ 0x8F)) := by
  unfold secondBounds at bounds
  simp only [UInt8.le_iff_toNat_le, ← UInt8.toNat_inj, UInt8.reduceToNat] at bounds
  split_ifs at bounds
  all_goals
    obtain ⟨rfl, rfl, rfl⟩ : _ ∧ _ ∧ _ := by simpa using bounds
    simp only [UInt8.reduceToNat, true_and]
    omega

theorem toNat_ofNat_char {v : Nat} (valid : v < 0xD800 ∨ 0xDFFF < v ∧ v < 0x110000) :
    (Char.ofNat v).toNat = v := by
  have isChar : v.isValidChar := valid
  rw [Char.ofNat, dif_pos isChar]
  rfl

theorem eq_tailByte {b : UInt8} {v : Nat} (bits : v % 64 = tailBits b) (low : 0x80 ≤ b.toNat)
    (high : b.toNat ≤ 0xBF) : tailByte v = b := by
  rw [← UInt8.toNat_inj, toNat_tailByte, bits, tailBits]
  omega

theorem eq_leadByte {a : UInt8} {n : Nat} (same : n = a.toNat) : UInt8.ofNat n = a := by
  rw [same, UInt8.ofNat_toNat]

theorem isTail_iff (b : UInt8) : isTail b = true ↔ 0x80 ≤ b.toNat ∧ b.toNat ≤ 0xBF := by
  simp [isTail, UInt8.le_iff_toNat_le]

theorem tailBits_eq {b : UInt8} (tail : 0x80 ≤ b.toNat ∧ b.toNat ≤ 0xBF) :
    tailBits b = b.toNat - 0x80 := by
  rw [tailBits]
  omega

section Characters

variable {a b c d : UInt8}

theorem encode_two (lead : 0xC2 ≤ a.toNat ∧ a.toNat ≤ 0xDF)
    (second : 0x80 ≤ b.toNat ∧ b.toNat ≤ 0xBF) :
    String.utf8EncodeChar (Char.ofNat (a.toNat % 32 * 64 + tailBits b)) = [a, b] := by
  have bits := tailBits_eq second
  generalize value : a.toNat % 32 * 64 + tailBits b = v
  have char : (Char.ofNat v).toNat = v := toNat_ofNat_char (by omega)
  rw [utf8EncodeChar_eq, char, if_neg (by omega), if_pos (by omega),
    eq_leadByte (a := a) (by omega), eq_tailByte (b := b) (by omega) second.1 second.2]

theorem encode_three (lead : 0xE0 ≤ a.toNat ∧ a.toNat ≤ 0xEF)
    (second : 0x80 ≤ b.toNat ∧ b.toNat ≤ 0xBF) (least : a.toNat = 0xE0 → 0xA0 ≤ b.toNat)
    (single : a.toNat = 0xED → b.toNat ≤ 0x9F) (third : 0x80 ≤ c.toNat ∧ c.toNat ≤ 0xBF) :
    String.utf8EncodeChar
        (Char.ofNat ((a.toNat % 16 * 64 + tailBits b) * 64 + tailBits c)) = [a, b, c] := by
  have bits := tailBits_eq second
  have bits' := tailBits_eq third
  generalize value : (a.toNat % 16 * 64 + tailBits b) * 64 + tailBits c = v
  have char : (Char.ofNat v).toNat = v := toNat_ofNat_char (by omega)
  rw [utf8EncodeChar_eq, char, if_neg (by omega), if_neg (by omega), if_pos (by omega),
    eq_leadByte (a := a) (by omega), eq_tailByte (b := b) (by omega) second.1 second.2,
    eq_tailByte (b := c) (by omega) third.1 third.2]

theorem encode_four (lead : 0xF0 ≤ a.toNat ∧ a.toNat ≤ 0xF4)
    (second : 0x80 ≤ b.toNat ∧ b.toNat ≤ 0xBF) (least : a.toNat = 0xF0 → 0x90 ≤ b.toNat)
    (greatest : a.toNat = 0xF4 → b.toNat ≤ 0x8F) (third : 0x80 ≤ c.toNat ∧ c.toNat ≤ 0xBF)
    (fourth : 0x80 ≤ d.toNat ∧ d.toNat ≤ 0xBF) :
    String.utf8EncodeChar (Char.ofNat
        (((a.toNat % 8 * 64 + tailBits b) * 64 + tailBits c) * 64 + tailBits d)) =
      [a, b, c, d] := by
  have bits := tailBits_eq second
  have bits' := tailBits_eq third
  have bits'' := tailBits_eq fourth
  generalize value : ((a.toNat % 8 * 64 + tailBits b) * 64 + tailBits c) * 64 + tailBits d = v
  have char : (Char.ofNat v).toNat = v := toNat_ofNat_char (by omega)
  rw [utf8EncodeChar_eq, char, if_neg (by omega), if_neg (by omega), if_neg (by omega),
    eq_leadByte (a := a) (by omega), eq_tailByte (b := b) (by omega) second.1 second.2,
    eq_tailByte (b := c) (by omega) third.1 third.2,
    eq_tailByte (b := d) (by omega) fourth.1 fourth.2]

end Characters

/-- Only what passes a guard is a character. -/
theorem of_guard {p : Prop} [Decidable p] {n size : Nat} {piece : Piece} {ch : Char}
    (guarded : (if ¬ p then .invalid n else piece) = Piece.char ch size) :
    p ∧ piece = .char ch size := by
  by_cases h : p
  · rw [if_neg (not_not.mpr h)] at guarded
    exact ⟨h, guarded⟩
  · rw [if_pos h] at guarded
    cases guarded

/-- A piece that is a character is what is written for it. -/
theorem written_of_pieceAt {a : UInt8} {rest : List UInt8} {ch : Char} {size : Nat}
    (piece : pieceAt a rest = .char ch size) :
    ∃ tail back, rest = tail ++ back ∧ size = tail.length + 1 ∧
      String.utf8EncodeChar ch = a :: tail := by
  by_cases ascii : a < 0x80
  · rw [pieceAt, if_pos ascii] at piece
    obtain ⟨rfl, rfl⟩ := Piece.char.inj piece
    have small : a.toNat < 0x80 := UInt8.lt_iff_toNat_lt.mp ascii
    refine ⟨[], rest, rfl, rfl, ?_⟩
    rw [utf8EncodeChar_eq, toNat_ofNat_char (by omega), if_pos (by omega), UInt8.ofNat_toNat]
  · rw [pieceAt, if_neg ascii] at piece
    cases bounds : secondBounds a with
    | none =>
      rw [bounds] at piece
      cases piece
    | some range =>
      obtain ⟨low, high, n⟩ := range
      have sizes := bounds_cases bounds
      cases rest with
      | nil =>
        rw [bounds] at piece
        cases piece
      | cons b rest =>
        simp only [bounds] at piece
        obtain ⟨second, piece⟩ := of_guard piece
        rw [UInt8.le_iff_toNat_le, UInt8.le_iff_toNat_le] at second
        by_cases two : n = 2
        · rw [if_pos two] at piece
          obtain ⟨rfl, rfl⟩ := Piece.char.inj piece
          exact ⟨[b], rest, rfl, rfl, encode_two (by omega) (by omega)⟩
        · rw [if_neg two] at piece
          cases rest with
          | nil => cases piece
          | cons c rest =>
            obtain ⟨third, piece⟩ := of_guard piece
            rw [isTail_iff] at third
            by_cases three : n = 3
            · rw [if_pos three] at piece
              obtain ⟨rfl, rfl⟩ := Piece.char.inj piece
              exact ⟨[b, c], rest, rfl, rfl,
                encode_three (by omega) (by omega) (by omega) (by omega) third⟩
            · rw [if_neg three] at piece
              cases rest with
              | nil => cases piece
              | cons d rest =>
                obtain ⟨fourth, piece⟩ := of_guard piece
                rw [isTail_iff] at fourth
                obtain ⟨rfl, rfl⟩ := Piece.char.inj piece
                exact ⟨[b, c, d], rest, rfl, rfl,
                  encode_four (by omega) (by omega) (by omega) (by omega) third fourth⟩

theorem eq_encodeChars_of_collect {bs : List UInt8} {cs : List Char} {index : Nat}
    (reads : collect index (pieces bs) = .ok cs) : bs = encodeChars cs := by
  induction len : bs.length using Nat.strongRecOn generalizing bs cs index with
  | ind n ih =>
    subst len
    cases bs with
    | nil =>
      obtain rfl : [] = cs := Except.ok.inj reads
      rfl
    | cons a rest =>
      rw [pieces, piecesAfter] at reads
      cases piece : pieceAt a rest with
      | invalid size | cut size =>
        rw [piece] at reads
        cases reads
      | char ch size =>
        obtain ⟨tail, back, rfl, rfl, bytes⟩ := written_of_pieceAt piece
        have after : piecesAfter tail.length (tail ++ back) = pieces back :=
          piecesAfter_append tail back
        simp only [piece, collect, Piece.size, Nat.add_sub_cancel, after] at reads
        cases later : collect (index + (tail.length + 1)) (pieces back) with
        | error e =>
          rw [later] at reads
          cases reads
        | ok cs' =>
          rw [later] at reads
          obtain rfl : ch :: cs' = cs := Except.ok.inj reads
          have shorter : back.length < (a :: (tail ++ back)).length := by
            simp only [List.length_cons, List.length_append]
            omega
          have same := ih back.length shorter later rfl
          have split : encodeChars (ch :: cs') = String.utf8EncodeChar ch ++ encodeChars cs' := rfl
          rw [split, bytes, ← same]
          rfl

/-- Bytes are read as a text exactly if they are what the text is written as. -/
theorem decode_eq_ok_iff (bs : List UInt8) (s : String) : decode bs = .ok s ↔ bs = encode s := by
  constructor
  · intro reads
    cases collected : collect 0 (pieces bs) with
    | error e =>
      rw [decode, collected] at reads
      cases reads
    | ok cs =>
      rw [decode, collected] at reads
      obtain rfl : String.ofList cs = s := Except.ok.inj reads
      rw [eq_encodeChars_of_collect collected, encode, String.toList_ofList]
  · rintro rfl
    exact decode_encode s

end Egress.Text.Utf8
