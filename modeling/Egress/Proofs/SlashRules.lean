import Egress.Bypass.Rule
import Egress.Proofs.Addresses

/-!
# Rules with a slash

A rule with a slash is a block of addresses or nothing. Which texts are blocks, which hosts are
addresses and which addresses are members is said here without the functions that decide it, so that
the whole way from the texts of a rule and a host to the answer is one equivalence.
-/

namespace Egress.Bypass

theorem Destination.ipv4_ofHost_eq_some_iff (host : String) (a : Ipv4) :
    (Destination.ofHost host).ipv4 = some a ↔
      Ipv4.IsQuad (Text.lowercase host).toList a.toNat :=
  Ipv4.ofQuad?_eq_some_iff _ _

theorem isLoopback_of_slash {text : String} (slashed : '/' ∈ text.toList) :
    isLoopback text = false := by
  have free : ∀ own ∈ ownNames, '/' ∉ own.toList := by decide
  rw [isLoopback_eq_false_iff]
  exact fun own => free text own slashed

/-- A rule with a slash is decided by its block alone. -/
theorem covers_slashed_iff_block {text : String} (slashed : '/' ∈ text.toList) (d : Destination) :
    (Rule.ofText text).covers d = true ↔
      ∃ b a, Block.parse text = .ok b ∧ d.ipv4 = some a ∧ b.contains a = true := by
  have shape : (Rule.ofText text).shape = match Block.parse text with
      | .ok b => .block b
      | .error _ => .malformed := by
    simp only [Rule.ofText, Shape.classify, isLoopback_of_slash slashed, Bool.false_eq_true,
      if_false, List.contains_iff_mem.mpr slashed, if_true, Shape.ofSlashed]
    cases Block.parse text <;> rfl
  rw [Rule.covers, shape]
  cases Block.parse text with
  | error e => simp
  | ok b => cases d.ipv4 <;> simp

theorem covers_slashed_iff_text {text : String} (slashed : '/' ∈ text.toList) (host : String) :
    (Rule.ofText text).covers (.ofHost host) = true ↔
      ∃ base length a, Block.IsText text.toList base length ∧
        Ipv4.IsQuad (Text.lowercase host).toList a ∧
        base / 2 ^ (32 - length) * 2 ^ (32 - length) ≤ a ∧
        a < base / 2 ^ (32 - length) * 2 ^ (32 - length) + 2 ^ (32 - length) := by
  rw [covers_slashed_iff_block slashed]
  constructor
  · rintro ⟨b, a, block, address, member⟩
    rw [Block.parse_eq_ok_iff slashed] at block
    rw [Destination.ipv4_ofHost_eq_some_iff] at address
    rw [Block.contains_iff_interval, Block.size_of_le block.length_le] at member
    exact ⟨_, _, _, block, address, member⟩
  · rintro ⟨base, length, a, block, address, member⟩
    refine ⟨⟨.ofNat base, length⟩, .ofNat a, ?_, ?_, ?_⟩
    · rw [Block.parse_eq_ok_iff slashed, Ipv4.toNat_ofNat block.base_lt]
      exact block
    · rw [Destination.ipv4_ofHost_eq_some_iff, Ipv4.toNat_ofNat address.lt]
      exact address
    · rw [Block.contains_iff_interval, Block.size_of_le block.length_le,
        Ipv4.toNat_ofNat block.base_lt, Ipv4.toNat_ofNat address.lt]
      exact member

/-- A rule with a slash covers a host exactly if the rule is the text of a block, the host in lower
case is a dotted quad, and the address lies in the interval that starts at the base, rounded down to
a multiple of the size of the block, and is as long as that size. So any other text with a slash
covers nothing, and no text with a slash covers a host that is not a dotted quad. -/
theorem covers_slashed_iff_interval (text host : String) (slashed : '/' ∈ text.toList) :
    ((Rule.compile text).value.covers (.ofHost host) = true ↔
      ∃ base length a, Block.IsText text.toList base length ∧
        Ipv4.IsQuad (Text.lowercase host).toList a ∧
        base / 2 ^ (32 - length) * 2 ^ (32 - length) ≤ a ∧
        a < base / 2 ^ (32 - length) * 2 ^ (32 - length) + 2 ^ (32 - length)) ∧
    ((¬ ∃ base length, Block.IsText text.toList base length) →
      (Rule.compile text).value.covers (.ofHost host) = false) ∧
    ((¬ ∃ a, Ipv4.IsQuad (Text.lowercase host).toList a) →
      (Rule.compile text).value.covers (.ofHost host) = false) := by
  rw [Rule.compile_value]
  have covered := covers_slashed_iff_text slashed host
  refine ⟨covered, ?_, ?_⟩
  · intro unread
    rw [Bool.eq_false_iff, ne_eq, covered]
    rintro ⟨base, length, a, block, _⟩
    exact unread ⟨base, length, block⟩
  · intro unread
    rw [Bool.eq_false_iff, ne_eq, covered]
    rintro ⟨base, length, a, block, address, _⟩
    exact unread ⟨a, address⟩

/-- The base of a block may lie inside it, and zeros in front of a group mean nothing. -/
theorem covers_slashed_iff_interval_inner_base :
    '/' ∈ "192.168.001.77/24".toList ∧
      (Rule.compile "192.168.001.77/24").value.covers (.ofHost "192.168.1.255") = true := by
  have slashed : '/' ∈ "192.168.001.77/24".toList := by decide
  have block : Block.IsText "192.168.001.77/24".toList 0xC0A8014D 24 :=
    (Block.parse_eq_ok_iff slashed ⟨.ofNat 0xC0A8014D, 24⟩).mp rfl
  have address : Ipv4.IsQuad (Text.lowercase "192.168.1.255").toList 0xC0A801FF :=
    (Destination.ipv4_ofHost_eq_some_iff "192.168.1.255" (.ofNat 0xC0A801FF)).mp (by decide)
  exact ⟨slashed, (covers_slashed_iff_interval "192.168.001.77/24" "192.168.1.255" slashed).1.mpr
    ⟨0xC0A8014D, 24, 0xC0A801FF, block, address, by decide, by decide⟩⟩

end Egress.Bypass
