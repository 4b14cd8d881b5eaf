import Egress.Proofs.Addresses

/-!
# Blocks are nested or apart

The mask of a block is made by a shift, and a shift by the width of a word or more has no meaning of
its own. None is ever asked for: with a shift that is only carried out by less than the width,
membership is what it is without this check, whatever the length. The members of a block are the
addresses with the same quotient as its base, and the divisor of the shorter length is a multiple of
the other one. So of two blocks the one of greater length lies inside the other, or they have no
address in common; its base tells which.
-/

namespace Egress.Block

/-- Shifts a word to the left, if it is by less than the width of the word. -/
def shifted? (x : UInt32) (n : Nat) : Option UInt32 :=
  if n < 32 then some (x <<< UInt32.ofNat n) else none

def mask? (length : Nat) : Option UInt32 :=
  match min length 32 with
  | 0 => some 0
  | n + 1 => shifted? 0xFFFFFFFF (32 - (n + 1))

/-- Whether an address belongs to the block, if there is a mask to decide it with. -/
def contains? (b : Block) (a : Ipv4) : Option Bool :=
  (mask? b.length).map fun m => a.bits &&& m == b.base.bits &&& m

theorem mask?_eq (length : Nat) : mask? length = some (mask length) := by
  cases bounded : min length 32 with
  | zero =>
    have none : length = 0 := by omega
    rw [none]
    rfl
  | succ n =>
    have some : length ≠ 0 := by omega
    have less : 32 - (n + 1) < 32 := by omega
    simp only [mask?, bounded, shifted?, if_pos less, mask, if_neg some]

theorem contains?_eq (b : Block) (a : Ipv4) : b.contains? a = some (b.contains a) := by
  rw [contains?, mask?_eq]
  rfl

theorem size_dvd_size {shorter longer : Nat} (le : shorter ≤ longer) : size longer ∣ size shorter :=
  Nat.pow_dvd_pow 2 (by omega)

/-- For a shorter block the members of a longer one are all alike. -/
theorem contains_iff_contains_base {b₁ b₂ : Block} (shorter : b₁.length ≤ b₂.length) {a : Ipv4}
    (member : b₂.contains a = true) : b₁.contains a = true ↔ b₁.contains b₂.base = true := by
  obtain ⟨k, multiple⟩ := size_dvd_size shorter
  rw [contains_iff_div] at member
  have same : a.toNat / size b₁.length = b₂.base.toNat / size b₁.length := by
    rw [multiple, ← Nat.div_div_eq_div_mul, member, Nat.div_div_eq_div_mul]
  rw [contains_iff_div, contains_iff_div, same]

/-- The shift for the mask is always by less than 32, and a block has the addresses that have the
same quotient as its base by the power of two that its length leaves. Of two blocks the longer one
lies inside the shorter one if its base does, and has no address in common with it otherwise. -/
theorem blocks_nested_or_apart :
    (∀ (b : Block) (a : Ipv4), b.contains? a = some (b.contains a) ∧
      (b.contains a = true ↔
        a.toNat / 2 ^ (32 - min b.length 32) = b.base.toNat / 2 ^ (32 - min b.length 32))) ∧
    ∀ b₁ b₂ : Block, b₁.length ≤ b₂.length →
      (b₁.contains b₂.base = true ∧ ∀ a, b₂.contains a = true → b₁.contains a = true) ∨
      (b₁.contains b₂.base = false ∧ ∀ a, ¬ (b₁.contains a = true ∧ b₂.contains a = true)) := by
  refine ⟨fun b a => ⟨b.contains?_eq a, b.contains_iff_div a⟩, ?_⟩
  intro b₁ b₂ shorter
  cases base : b₁.contains b₂.base with
  | true =>
    refine Or.inl ⟨rfl, ?_⟩
    intro a member
    exact (contains_iff_contains_base shorter member).mpr base
  | false =>
    refine Or.inr ⟨rfl, ?_⟩
    rintro a ⟨member₁, member₂⟩
    have inside := (contains_iff_contains_base shorter member₂).mp member₁
    rw [base] at inside
    cases inside

/-- A length above 32 means a single address, which lies inside the block of all. -/
theorem blocks_nested_or_apart_single :
    (⟨.ofOctets 255 255 255 255, 0⟩ : Block).length ≤ (⟨.ofOctets 10 1 2 3, 255⟩ : Block).length ∧
      ∀ a, (⟨.ofOctets 10 1 2 3, 255⟩ : Block).contains a = true →
        (⟨.ofOctets 255 255 255 255, 0⟩ : Block).contains a = true := by
  have shorter : (⟨.ofOctets 255 255 255 255, 0⟩ : Block).length ≤
      (⟨.ofOctets 10 1 2 3, 255⟩ : Block).length := by decide
  rcases blocks_nested_or_apart.2 _ _ shorter with ⟨_, inside⟩ | ⟨outside, _⟩
  · exact ⟨shorter, inside⟩
  · exact absurd outside (by decide)

end Egress.Block
