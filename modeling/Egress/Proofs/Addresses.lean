import Mathlib
import Egress.Ipv4

/-!
# Addresses and blocks, text by text

The texts that an address or the length of a block may have are described by predicates of their
own, without the functions that read them, and reading succeeds exactly on these texts. A block is
an interval of addresses: masking keeps the leading bits, which is division by the size of the
block.
-/

namespace Egress

namespace Ipv4

/-- A group of decimal digits, leading zeros allowed, of value `n` at most 255. -/
structure IsOctet (cs : List Char) (n : Nat) : Prop where
  nonempty : cs ≠ []
  digits : ∀ c ∈ cs, c.isDigit = true
  value : Nat.ofDigitChars 10 cs 0 = n
  small : n ≤ 255

/-- Four groups with dots between them; `v` is their value, the first group being the highest. -/
def IsQuad (cs : List Char) (v : Nat) : Prop :=
  ∃ g₁ g₂ g₃ g₄ n₁ n₂ n₃ n₄,
    cs = g₁ ++ '.' :: (g₂ ++ '.' :: (g₃ ++ '.' :: g₄)) ∧
    IsOctet g₁ n₁ ∧ IsOctet g₂ n₂ ∧ IsOctet g₃ n₃ ∧ IsOctet g₄ n₄ ∧
    v = n₁ * 2 ^ 24 + n₂ * 2 ^ 16 + n₃ * 2 ^ 8 + n₄

theorem not_mem_of_forall_isDigit {cs : List Char} {c : Char} (hcs : ∀ c ∈ cs, c.isDigit = true)
    (hc : c.isDigit = false) : c ∉ cs := by
  intro mem
  have digit := hcs c mem
  rw [hc] at digit
  cases digit

theorem IsOctet.dot_not_mem {cs : List Char} {n : Nat} (h : IsOctet cs n) : '.' ∉ cs :=
  not_mem_of_forall_isDigit h.digits (by decide)

/-- Octets and lengths are read alike: digits, after a test of their number, up to a bound. -/
theorem read_digits_eq_some_iff (refused : Bool) (bound : Nat) (cs : List Char) (n : Nat) :
    (if refused || !cs.all Char.isDigit then none
      else if Nat.ofDigitChars 10 cs 0 ≤ bound then some (Nat.ofDigitChars 10 cs 0)
      else none) = some n ↔
    refused = false ∧ (∀ c ∈ cs, c.isDigit = true) ∧
      Nat.ofDigitChars 10 cs 0 = n ∧ n ≤ bound := by
  simp only [Option.ite_none_left_eq_some, Option.ite_none_right_eq_some, Option.some.injEq,
    Bool.or_eq_true, Bool.not_eq_true', not_or, Bool.not_eq_true, Bool.not_eq_false,
    List.all_eq_true, and_assoc]
  constructor
  · rintro ⟨accepted, digits, small, rfl⟩
    exact ⟨accepted, digits, rfl, small⟩
  · rintro ⟨accepted, digits, rfl, small⟩
    exact ⟨accepted, digits, small, rfl⟩

theorem octet?_eq_some_iff (cs : List Char) (n : Nat) : octet? cs = some n ↔ IsOctet cs n := by
  rw [octet?, read_digits_eq_some_iff, List.isEmpty_eq_false_iff]
  constructor
  · rintro ⟨nonempty, digits, value, small⟩
    exact ⟨nonempty, digits, value, small⟩
  · intro h
    exact ⟨h.nonempty, h.digits, h.value, h.small⟩

theorem intercalate_four (g₁ g₂ g₃ g₄ : List Char) :
    ['.'].intercalate [g₁, g₂, g₃, g₄] = g₁ ++ '.' :: (g₂ ++ '.' :: (g₃ ++ '.' :: g₄)) := by
  simp [List.intercalate_cons_cons]

theorem ofOctets_toNat {a b c d : Nat} (ha : a ≤ 255) (hb : b ≤ 255) (hc : c ≤ 255)
    (hd : d ≤ 255) : (ofOctets a b c d).toNat = a * 2 ^ 24 + b * 2 ^ 16 + c * 2 ^ 8 + d := by
  have small : ((a * 256 + b) * 256 + c) * 256 + d < 2 ^ 32 := by omega
  rw [ofOctets, ofNat, toNat, UInt32.toNat_ofNat_of_lt' small]
  omega

theorem toNat_injective {a b : Ipv4} (h : a.toNat = b.toNat) : a = b := by
  obtain ⟨a⟩ := a
  obtain ⟨b⟩ := b
  exact congrArg Ipv4.mk (UInt32.toNat_inj.mp h)

theorem splitOn_four {g₁ g₂ g₃ g₄ : List Char} (free : ∀ g ∈ [g₁, g₂, g₃, g₄], '.' ∉ g) :
    (g₁ ++ '.' :: (g₂ ++ '.' :: (g₃ ++ '.' :: g₄))).splitOn '.' = [g₁, g₂, g₃, g₄] := by
  rw [← intercalate_four]
  exact List.splitOn_intercalate '.' free (by simp)

/-- The groups of a quad are what its dots cut it into. -/
theorem IsQuad.exists_groups {cs : List Char} {v : Nat} (h : IsQuad cs v) :
    ∃ g₁ g₂ g₃ g₄ n₁ n₂ n₃ n₄, cs.splitOn '.' = [g₁, g₂, g₃, g₄] ∧
      IsOctet g₁ n₁ ∧ IsOctet g₂ n₂ ∧ IsOctet g₃ n₃ ∧ IsOctet g₄ n₄ ∧
      v = n₁ * 2 ^ 24 + n₂ * 2 ^ 16 + n₃ * 2 ^ 8 + n₄ := by
  obtain ⟨g₁, g₂, g₃, g₄, n₁, n₂, n₃, n₄, rfl, h₁, h₂, h₃, h₄, value⟩ := h
  refine ⟨g₁, g₂, g₃, g₄, n₁, n₂, n₃, n₄, splitOn_four ?_, h₁, h₂, h₃, h₄, value⟩
  intro g mem
  simp only [List.mem_cons, List.not_mem_nil, or_false] at mem
  rcases mem with rfl | rfl | rfl | rfl
  · exact h₁.dot_not_mem
  · exact h₂.dot_not_mem
  · exact h₃.dot_not_mem
  · exact h₄.dot_not_mem

/-- Exactly the dotted quads are read, each as its value. -/
theorem ofQuad?_eq_some_iff (cs : List Char) (a : Ipv4) :
    ofQuad? cs = some a ↔ IsQuad cs a.toNat := by
  constructor
  · intro h
    unfold ofQuad? at h
    split at h
    · next n₁ n₂ n₃ n₄ read =>
      obtain ⟨g₁, gs, hsplit, h₁, read⟩ := List.map_eq_cons_iff.mp read
      obtain ⟨g₂, gs, rfl, h₂, read⟩ := List.map_eq_cons_iff.mp read
      obtain ⟨g₃, gs, rfl, h₃, read⟩ := List.map_eq_cons_iff.mp read
      obtain ⟨g₄, gs, rfl, h₄, read⟩ := List.map_eq_cons_iff.mp read
      obtain rfl := List.map_eq_nil_iff.mp read
      rw [octet?_eq_some_iff] at h₁ h₂ h₃ h₄
      obtain rfl := Option.some.inj h
      refine ⟨g₁, g₂, g₃, g₄, n₁, n₂, n₃, n₄, ?_, h₁, h₂, h₃, h₄,
        ofOctets_toNat h₁.small h₂.small h₃.small h₄.small⟩
      rw [← intercalate_four, ← hsplit, List.intercalate_splitOn]
    · cases h
  · intro h
    obtain ⟨g₁, g₂, g₃, g₄, n₁, n₂, n₃, n₄, hsplit, h₁, h₂, h₃, h₄, value⟩ := h.exists_groups
    have same : ofOctets n₁ n₂ n₃ n₄ = a := toNat_injective
      ((ofOctets_toNat h₁.small h₂.small h₃.small h₄.small).trans value.symm)
    rw [← octet?_eq_some_iff] at h₁ h₂ h₃ h₄
    simp only [ofQuad?, hsplit, List.map_cons, List.map_nil, h₁, h₂, h₃, h₄, same]

theorem IsQuad.slash_not_mem {cs : List Char} {v : Nat} (h : IsQuad cs v) : '/' ∉ cs := by
  obtain ⟨g₁, g₂, g₃, g₄, n₁, n₂, n₃, n₄, rfl, h₁, h₂, h₃, h₄, _⟩ := h
  have free : ∀ {g n}, IsOctet g n → '/' ∉ g :=
    fun h => not_mem_of_forall_isDigit h.digits (by decide)
  simp [free h₁, free h₂, free h₃, free h₄]

theorem IsQuad.lt {cs : List Char} {v : Nat} (h : IsQuad cs v) : v < 2 ^ 32 := by
  obtain ⟨_, _, _, _, n₁, n₂, n₃, n₄, _, h₁, h₂, h₃, h₄, rfl⟩ := h
  have b₁ := h₁.small
  have b₂ := h₂.small
  have b₃ := h₃.small
  have b₄ := h₄.small
  omega

theorem toNat_ofNat {n : Nat} (h : n < 2 ^ 32) : (ofNat n).toNat = n :=
  UInt32.toNat_ofNat_of_lt' h

theorem parse_eq_ok_iff (text : String) (a : Ipv4) :
    parse text = .ok a ↔ IsQuad text.toList a.toNat := by
  rw [← ofQuad?_eq_some_iff, parse]
  cases ofQuad? text.toList <;> simp

end Ipv4

namespace Block

/-- The number of the addresses that share `length` bits. -/
def size (length : Nat) : Nat := 2 ^ (32 - min length 32)

/-- The text of a length: one or two decimal digits, of value `n` at most 32. -/
structure IsLength (cs : List Char) (n : Nat) : Prop where
  short : cs.length = 1 ∨ cs.length = 2
  digits : ∀ c ∈ cs, c.isDigit = true
  value : Nat.ofDigitChars 10 cs 0 = n
  small : n ≤ 32

/-- The text of a block: a quad of value `base`, one slash and a length. -/
def IsText (cs : List Char) (base length : Nat) : Prop :=
  ∃ quad digits, cs = quad ++ '/' :: digits ∧ Ipv4.IsQuad quad base ∧ IsLength digits length

theorem IsText.base_lt {cs : List Char} {base length : Nat} (h : IsText cs base length) :
    base < 2 ^ 32 := by
  obtain ⟨_, _, _, quad, _⟩ := h
  exact quad.lt

theorem IsText.length_le {cs : List Char} {base length : Nat} (h : IsText cs base length) :
    length ≤ 32 := by
  obtain ⟨_, _, _, _, digits⟩ := h
  exact digits.small

theorem mask_testBit (length i : Nat) :
    (mask length).toNat.testBit i = (decide (32 - min length 32 ≤ i) && decide (i < 32)) := by
  by_cases all : length = 0
  · simp only [mask, all, if_true, UInt32.toNat_zero, Nat.zero_testBit]
    simp
  · have shift : (UInt32.ofNat (32 - min length 32)).toNat % 32 = 32 - min length 32 := by
      rw [UInt32.toNat_ofNat_of_lt' (by simp only [UInt32.size]; omega)]
      omega
    have ones : (0xFFFFFFFF : UInt32).toNat = 2 ^ 32 - 1 := rfl
    simp only [mask, all, if_false, UInt32.toNat_shiftLeft, shift, ones, Nat.testBit_mod_two_pow,
      Nat.testBit_shiftLeft, Nat.testBit_two_pow_sub_one]
    by_cases h : i < 32 <;> simp [h]
    omega

/-- Masking takes an address down to the next multiple of the size of the block. -/
theorem and_mask_toNat (x : UInt32) (length : Nat) :
    (x &&& mask length).toNat = x.toNat / size length * size length := by
  apply Nat.eq_of_testBit_eq
  intro i
  rw [UInt32.toNat_and, Nat.testBit_and, mask_testBit, size, Nat.testBit_mul_two_pow,
    Nat.testBit_div_two_pow]
  by_cases low : 32 - min length 32 ≤ i
  · have position : i - (32 - min length 32) + (32 - min length 32) = i := by omega
    by_cases high : i < 32
    · simp [low, high, position]
    · have clear : x.toNat.testBit i = false := Nat.testBit_lt_two_pow
        (Nat.lt_of_lt_of_le x.toNat_lt (Nat.pow_le_pow_right (by decide) (by omega)))
      simp [position, clear]
  · simp [low]

theorem size_of_le {length : Nat} (h : length ≤ 32) : size length = 2 ^ (32 - length) := by
  rw [size, Nat.min_eq_left h]

theorem size_pos (length : Nat) : 0 < size length := Nat.two_pow_pos _

/-- The members of a block are the addresses with the same quotient by its size as the base. -/
theorem contains_iff_div (b : Block) (a : Ipv4) :
    b.contains a = true ↔ a.toNat / size b.length = b.base.toNat / size b.length := by
  rw [contains, beq_iff_eq, ← UInt32.toNat_inj, and_mask_toNat, and_mask_toNat]
  exact Nat.mul_left_inj (Nat.ne_of_gt (size_pos b.length))

/-- The members of a block are an interval that starts at a multiple of its size. -/
theorem contains_iff_interval (b : Block) (a : Ipv4) :
    b.contains a = true ↔
      b.base.toNat / size b.length * size b.length ≤ a.toNat ∧
        a.toNat < b.base.toNat / size b.length * size b.length + size b.length := by
  rw [contains_iff_div, Nat.div_eq_iff (size_pos b.length)]
  have := size_pos b.length
  omega

theorem length?_eq_some_iff (cs : List Char) (n : Nat) : length? cs = some n ↔ IsLength cs n := by
  have short : (cs.isEmpty || decide (2 < cs.length)) = false ↔
      cs.length = 1 ∨ cs.length = 2 := by
    simp only [Bool.or_eq_false_iff, List.isEmpty_eq_false_iff, decide_eq_false_iff_not, ne_eq,
      ← List.length_eq_zero_iff]
    omega
  rw [length?, Ipv4.read_digits_eq_some_iff, short]
  constructor
  · rintro ⟨short, digits, value, small⟩
    exact ⟨short, digits, value, small⟩
  · intro h
    exact ⟨h.short, h.digits, h.value, h.small⟩

/-- What comes before the first slash is read as the base, and what comes after it as the length. -/
theorem parse_of_append_slash {text : String} {quad digits : List Char}
    (split : text.toList = quad ++ '/' :: digits) (first : '/' ∉ quad) :
    parse text = (Ipv4.parse (String.ofList quad)).bind fun base =>
      (length? digits).elim (.error (.badLength text)) fun n => .ok ⟨base, n⟩ := by
  have before : ∀ c ∈ quad, (c != '/') = true := by
    intro c mem
    rw [bne_iff_ne]
    rintro rfl
    exact first mem
  have taken : (quad ++ '/' :: digits).takeWhile (· != '/') = quad := by
    rw [List.takeWhile_append_of_pos before]
    simp
  have dropped : (quad ++ '/' :: digits).dropWhile (· != '/') = '/' :: digits := by
    rw [List.dropWhile_append_of_pos before]
    simp
  simp only [parse, split, taken, dropped]
  cases Ipv4.parse (String.ofList quad) with
  | error e => rfl
  | ok base => cases length? digits <;> rfl

/-- Exactly the texts of blocks are read. -/
theorem parse_eq_ok_iff {text : String} (slashed : '/' ∈ text.toList) (b : Block) :
    parse text = .ok b ↔ IsText text.toList b.base.toNat b.length := by
  constructor
  · intro h
    obtain ⟨quad, digits, split, first⟩ := List.eq_append_cons_of_mem slashed
    rw [parse_of_append_slash split first] at h
    cases base : Ipv4.parse (String.ofList quad) with
    | error e => rw [base] at h; cases h
    | ok a =>
      cases length : length? digits with
      | none => rw [base, length] at h; cases h
      | some n =>
        rw [base, length] at h
        obtain rfl := Except.ok.inj h
        rw [Ipv4.parse_eq_ok_iff, String.toList_ofList] at base
        exact ⟨quad, digits, split, base, (length?_eq_some_iff digits n).mp length⟩
  · rintro ⟨quad, digits, split, base, length⟩
    have hbase : Ipv4.parse (String.ofList quad) = .ok b.base := by
      rw [Ipv4.parse_eq_ok_iff, String.toList_ofList]
      exact base
    have hlength := (length?_eq_some_iff digits b.length).mpr length
    have assembled := parse_of_append_slash split base.slash_not_mem
    rw [hbase, hlength] at assembled
    exact assembled

end Block

end Egress
