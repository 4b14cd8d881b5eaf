import Mathlib
import Egress.Decimal.Binary64

/-!
# Whole numbers as doubles

A whole number of at most `2 ^ 53` is a double, so that rounding leaves it as it is. Of a greater
one it is only said that rounding does not take it below a power of two that it reaches.
-/

namespace Egress.Binary64

theorem nearest_of_dvd {num den : Nat} (h : den ∣ num) (pos : 0 < den) :
    nearest num den = num / den := by
  have rest : num % den = 0 := Nat.mod_eq_zero_of_dvd h
  simp [nearest, rest, pos]

/-- A number of units that is a multiple of the spacing around it is not changed. -/
theorem roundUnits_of_spacing_dvd {n : Nat} (h : spacing n ∣ n) : roundUnits n 1 = n := by
  have pos : 0 < spacing n := Nat.two_pow_pos _
  simp only [roundUnits, Nat.div_one, Nat.one_mul, nearest_of_dvd h pos]
  exact Nat.div_mul_cancel h

theorem log2_mul_two_pow {n : Nat} (pos : 0 < n) (k : Nat) : (n * 2 ^ k).log2 = n.log2 + k := by
  induction k with
  | zero => simp
  | succ k ih =>
    have positive : n * 2 ^ k ≠ 0 := Nat.ne_of_gt (Nat.mul_pos pos (Nat.two_pow_pos k))
    have double : n * 2 ^ (k + 1) = 2 * (n * 2 ^ k) := by
      rw [Nat.pow_succ, ← Nat.mul_assoc, Nat.mul_comm]
    rw [double, Nat.log2_two_mul positive, ih, Nat.add_assoc]

theorem spacing_mul_two_pow_dvd {n : Nat} (h : n ≤ 2 ^ 53) (k : Nat) :
    spacing (n * 2 ^ k) ∣ n * 2 ^ k := by
  rcases Nat.eq_zero_or_pos n with rfl | pos
  · simp
  rw [spacing, Nat.pow_eq, log2_mul_two_pow pos]
  rcases Nat.lt_or_eq_of_le h with below | rfl
  · -- Below the bound the spacing divides the power of two, at the bound only the whole product.
    have digits := (Nat.log2_lt (Nat.ne_of_gt pos)).mpr below
    exact Nat.dvd_mul_left_of_dvd (Nat.pow_dvd_pow 2 (by omega)) n
  · rw [Nat.log2_two_pow, ← Nat.pow_add]
    exact Nat.pow_dvd_pow 2 (by omega)

-- The exponents are made variables so that nothing tries to write out the powers.
theorem exists_one_eq : ∃ k, one = 2 ^ k := by
  unfold one
  generalize 1074 = k
  exact ⟨k, rfl⟩

theorem roundUnits_mul_one {n : Nat} (h : n ≤ 2 ^ 53) : roundUnits (n * one) 1 = n * one := by
  obtain ⟨k, units⟩ := exists_one_eq
  rw [units, roundUnits_of_spacing_dvd (spacing_mul_two_pow_dvd h k)]

theorem whole_mul_one (negative : Bool) (n : Nat) : whole ⟨negative, n * one⟩ = n := by
  obtain ⟨k, units⟩ := exists_one_eq
  rw [whole, units]
  exact Nat.mul_div_cancel n (Nat.two_pow_pos k)

/-- A word of at most `2 ^ 53` is a double. -/
theorem whole_ofUInt64 {n : UInt64} (h : n.toNat ≤ 2 ^ 53) : (ofUInt64 n).whole = n.toNat := by
  rw [ofUInt64, roundUnits_mul_one h, whole_mul_one]

theorem mul_one_lt_bound {n : Nat} (h : n ≤ 2 ^ 53) : n * one < bound := by
  have range : bound = 2 ^ 1024 * one := by
    have split : 2098 = 1024 + 1074 := rfl
    unfold bound one
    rw [split]
    generalize 1024 = m, 1074 = k
    exact Nat.pow_add 2 m k
  obtain ⟨k, units⟩ := exists_one_eq
  rw [range, units]
  apply Nat.mul_lt_mul_of_pos_right _ (Nat.two_pow_pos k)
  have less : ∀ m, 53 < m → 2 ^ 53 < 2 ^ m := fun m => Nat.pow_lt_pow_right (by decide)
  exact lt_of_le_of_lt h (less 1024 (by decide))

/-- A natural number of at most `2 ^ 53` is a double, with either sign. -/
theorem ofNat?_of_le (negative : Bool) {n : Nat} (h : n ≤ 2 ^ 53) :
    ofNat? negative n = some ⟨negative, n * one⟩ := by
  rw [ofNat?, roundUnits_mul_one h, finite?, if_pos (mul_one_lt_bound h), Option.map_some]

theorem div_le_nearest (num den : Nat) : num / den ≤ nearest num den := by
  unfold nearest
  dsimp only
  split
  · exact Nat.le_refl _
  · split <;> omega

/-- Rounding does not go below a power of two: the spacing divides the greatest one that is
reached. -/
theorem two_pow_le_roundUnits {k n : Nat} (reached : 2 ^ k ≤ n) : 2 ^ k ≤ roundUnits n 1 := by
  have nonzero : n ≠ 0 := Nat.ne_of_gt (lt_of_lt_of_le (Nat.two_pow_pos k) reached)
  have divides : spacing n ∣ 2 ^ n.log2 := Nat.pow_dvd_pow 2 (by omega)
  calc 2 ^ k ≤ 2 ^ n.log2 := Nat.pow_le_pow_right (by decide) ((Nat.le_log2 nonzero).mpr reached)
    _ = 2 ^ n.log2 / spacing n * spacing n := (Nat.div_mul_cancel divides).symm
    _ ≤ n / spacing n * spacing n :=
        Nat.mul_le_mul_right _ (Nat.div_le_div_right (Nat.log2_self_le nonzero))
    _ ≤ nearest n (spacing n) * spacing n := Nat.mul_le_mul_right _ (div_le_nearest n _)
    _ = roundUnits n 1 := by rw [roundUnits, Nat.div_one, Nat.one_mul]

/-- A natural number that reaches a power of two is rounded to a double that does. -/
theorem two_pow_le_whole {negative : Bool} {k n : Nat} {x : Binary64} (reached : 2 ^ k ≤ n)
    (rounded : ofNat? negative n = some x) : 2 ^ k ≤ x.whole := by
  obtain ⟨units, inRange, rfl⟩ := Option.map_eq_some_iff.mp rounded
  obtain ⟨_, same⟩ := Option.ite_none_right_eq_some.mp inRange
  obtain rfl := Option.some.inj same
  obtain ⟨e, unit⟩ := exists_one_eq
  rw [whole, unit, Nat.le_div_iff_mul_le (Nat.two_pow_pos e), ← Nat.pow_add]
  apply two_pow_le_roundUnits
  rw [Nat.pow_add]
  exact Nat.mul_le_mul_right _ reached

end Egress.Binary64
