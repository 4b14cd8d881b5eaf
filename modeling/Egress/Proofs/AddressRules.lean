import Egress.Route
import Egress.Proofs.AddressTexts
import Egress.Proofs.NameRules
import Egress.Proofs.SlashRules

/-!
# Rules that are addresses

A plain address is a rule like any other name: it is compared with the text of a host and with what
stands there behind a dot. The same address with a length of 32 is a block, and is compared with the
value of a host. On URLs the two agree. That an address is its text takes care of equal texts, and a
count of dots of all others: a host that is an address has three of them, and a text that ends in
another behind a dot has four at least. Only `127.0.0.1` is left out, which stands for all names of
the own machine.
-/

namespace Egress

namespace Ipv4

theorem text_injective {a b : Ipv4} (same : a.text = b.text) : a = b := by
  have read := parse_text a
  rw [same, parse_text] at read
  exact (Except.ok.inj read).symm

theorem IsQuad.count_dot {cs : List Char} {v : Nat} (h : IsQuad cs v) : cs.count '.' = 3 := by
  obtain ⟨g₁, g₂, g₃, g₄, n₁, n₂, n₃, n₄, rfl, h₁, h₂, h₃, h₄, _⟩ := h
  simp [List.count_eq_zero_of_not_mem, h₁.dot_not_mem, h₂.dot_not_mem, h₃.dot_not_mem,
    h₄.dot_not_mem]

/-- An address does not end in another behind a dot. -/
theorem text_ne_behind_dot (a b : Ipv4) (sub : String) : b.text ≠ sub ++ "." ++ a.text := by
  intro same
  have dots := congrArg (fun s => s.toList.count '.') same
  simp only [String.toList_append, toList_text, List.count_append, a.isQuad_quad.count_dot,
    b.isQuad_quad.count_dot] at dots
  have one : ".".toList.count '.' = 1 := rfl
  omega

end Ipv4

namespace Bypass

theorem ofHost_text (a : Ipv4) : Destination.ofHost a.text = ⟨a.text, some a⟩ := by
  have same : Text.lowercase a.text = a.text := a.lowercase_text
  rw [Destination.ofHost, same, a.toList_text, a.ofQuad?_quad]

/-- The texts of addresses are plain names. -/
theorem text_isName {a : Ipv4} (other : a ≠ .ofOctets 127 0 0 1) :
    a.text ∉ ownNames ∧ '/' ∉ a.text.toList ∧ ∀ rest, a.text ≠ "*." ++ rest := by
  have quad : Ipv4.IsQuad a.text.toList a.toNat := by
    rw [a.toList_text]
    exact a.isQuad_quad
  refine ⟨?_, quad.slash_not_mem, plain_of_head ?_⟩
  · intro own
    have dots := quad.count_dot
    simp only [ownNames, List.mem_cons, List.not_mem_nil, or_false] at own
    rcases own with same | same | same
    · rw [same] at dots
      cases dots
    · exact other (Ipv4.text_injective (same.trans (by decide)))
    · rw [same] at dots
      cases dots
  · intro star
    have starless : ∀ c ∈ a.text.toList, c ≠ '*' := by
      apply quad.forall_mem (p := fun c => c ≠ '*') (by decide)
      rintro c digit rfl
      cases digit
    exact starless '*' (List.mem_of_head? star) rfl

/-- An address as a rule covers an address exactly if it is the same. -/
theorem covers_text_iff {a : Ipv4} (other : a ≠ .ofOctets 127 0 0 1) (b : Ipv4) :
    (Rule.ofText a.text).covers (.ofHost b.text) = true ↔ a = b := by
  obtain ⟨own, unslashed, plain⟩ := text_isName other
  rw [covers_bare_iff own unslashed plain, ofHost_text]
  constructor
  · rintro (same | ⟨sub, same⟩)
    · exact (Ipv4.text_injective same).symm
    · exact absurd same (Ipv4.text_ne_behind_dot a b sub)
  · rintro rfl
    exact Or.inl rfl

/-- The block of a single address. -/
theorem parse_text_block (a : Ipv4) : Block.parse (a.text ++ "/32") = .ok ⟨a, 32⟩ := by
  have tail : "/32" = "/" ++ String.ofList (Nat.toDigits 10 32) := by decide
  rw [tail, ← String.append_assoc]
  exact Block.parse_text (b := ⟨a, 32⟩) (le_refl 32)

/-- The block of one address covers an address exactly if it is the same. -/
theorem covers_block_iff (a b : Ipv4) :
    (Rule.ofText (a.text ++ "/32")).covers (.ofHost b.text) = true ↔ a = b := by
  have slashed : '/' ∈ (a.text ++ "/32").toList := by simp
  rw [covers_slashed_iff_block slashed, parse_text_block, ofHost_text]
  have alone : (⟨a, 32⟩ : Block).contains b = true ↔ a = b := by
    rw [Block.contains_iff_div, Block.size_of_le (le_refl 32), Nat.sub_self, pow_zero, Nat.div_one,
      Nat.div_one]
    exact ⟨fun same => (Ipv4.toNat_injective same).symm, fun same => same ▸ rfl⟩
  constructor
  · rintro ⟨block, address, ⟨⟩, ⟨⟩, member⟩
    exact alone.mp member
  · intro same
    exact ⟨_, _, rfl, rfl, alone.mpr same⟩

end Bypass

/-- A URL that leads to an address, however it writes it, has the text of this address as its host
and its value with it. A rule that is another address than `127.0.0.1` covers it exactly if the two
are the same, and so exactly if the block of this one address does. -/
theorem address_rule_iff_block {a b : Ipv4} (other : a ≠ .ofOctets 127 0 0 1)
    {url : String} {u : Url} (read : Url.parse url = .ok u) (host : u.host = some (.ipv4 b)) :
    destinationOf? url = some ⟨b.text, some b⟩ ∧
      ((Bypass.Rule.compile a.text).value.covers ⟨b.text, some b⟩ = true ↔ a = b) ∧
      ((Bypass.Rule.compile a.text).value.covers ⟨b.text, some b⟩ = true ↔
        (Bypass.Rule.compile (a.text ++ "/32")).value.covers ⟨b.text, some b⟩ = true) := by
  have plain := Bypass.covers_text_iff other b
  have block := Bypass.covers_block_iff a b
  rw [Bypass.ofHost_text] at plain block
  simp only [Bypass.Rule.compile_value]
  refine ⟨?_, plain, plain.trans block.symm⟩
  rw [destinationOf?, read]
  simp only [Url.destination?, host, Option.map_some, Host.text, Bypass.ofHost_text]

/-- An address in one hexadecimal number. -/
theorem address_rule_iff_block_hexadecimal :
    Ipv4.ofOctets 10 0 0 1 ≠ .ofOctets 127 0 0 1 ∧
      Url.parse "http://0x0A000001/" = .ok ⟨"http", some (.ipv4 (.ofOctets 10 0 0 1))⟩ ∧
      destinationOf? "http://0x0A000001/" = some ⟨"10.0.0.1", some (.ofOctets 10 0 0 1)⟩ ∧
      (Bypass.Rule.compile "10.0.0.1").value.covers ⟨"10.0.0.1", some (.ofOctets 10 0 0 1)⟩ =
        true := by
  have other : Ipv4.ofOctets 10 0 0 1 ≠ .ofOctets 127 0 0 1 := by decide
  have read : Url.parse "http://0x0A000001/" =
      .ok ⟨"http", some (.ipv4 (.ofOctets 10 0 0 1))⟩ := by decide +kernel
  have agrees := address_rule_iff_block other read rfl
  exact ⟨other, read, agrees.1, agrees.2.1.mpr rfl⟩

end Egress
