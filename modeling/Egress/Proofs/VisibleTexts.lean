import Egress.Bypass.Input
import Egress.Proofs.Addresses
import Egress.Proofs.LowerCase
import Egress.Proofs.Trimming

/-!
# Visible texts

The hosts of URLs are written in visible ASCII characters. On such a text, lower case goes letter by
letter, and a second time it does nothing; there is nothing to trim. So the canonical form of a rule
takes from a host in lower case only the dot at its end and the dots in front.
-/

namespace Egress

namespace Text

/-- What holds of all ASCII characters is found out one by one. -/
theorem forall_ascii {p : Char → Prop} (all : ∀ n, n < 128 → p (Char.ofNat n)) (c : Char)
    (ascii : c.toNat < 128) : p c := by
  have holds := all c.toNat ascii
  rwa [Char.ofNat_toNat] at holds

theorem ascii_of_isAlphanum {c : Char} (alphanumeric : c.isAlphanum = true) : c.toNat < 128 := by
  simp only [Char.isAlphanum, Char.isAlpha, Char.isUpper, Char.isLower, Char.isDigit,
    Bool.or_eq_true, Bool.and_eq_true, decide_eq_true_eq, ge_iff_le,
    UInt32.le_iff_toNat_le] at alphanumeric
  have upper : 'Z'.val.toNat = 90 := rfl
  have lower : 'z'.val.toNat = 122 := rfl
  have nine : '9'.val.toNat = 57 := rfl
  have value : c.toNat = c.val.toNat := rfl
  omega

/-- An ASCII character that is seen, and is not the slash. -/
def IsVisible (c : Char) : Prop :=
  32 < c.toNat ∧ c.toNat < 127 ∧ c ≠ '/'

instance : DecidablePred IsVisible :=
  fun c => inferInstanceAs (Decidable (32 < c.toNat ∧ c.toNat < 127 ∧ c ≠ '/'))

theorem IsVisible.ascii {c : Char} (visible : IsVisible c) : c.toNat < 128 := by
  have below := visible.2.1
  omega

theorem IsVisible.not_blank {c : Char} (visible : IsVisible c) : isBlank c = false :=
  forall_ascii (p := fun c => IsVisible c → isBlank c = false) (by decide +kernel) c
    visible.ascii visible

theorem IsVisible.lowerSimple {c : Char} (visible : IsVisible c) : IsVisible (lowerSimple c) :=
  forall_ascii (p := fun c => IsVisible c → IsVisible (Text.lowerSimple c)) (by decide +kernel) c
    visible.ascii visible

theorem lowercaseAfter_of_ascii {cs : List Char} (ascii : ∀ c ∈ cs, c.toNat < 128)
    (before : List Char) : lowercaseAfter before cs = cs.map lowerSimple := by
  induction cs generalizing before with
  | nil => rfl
  | cons c cs ih =>
    have here : c.toNat < 128 := ascii c List.mem_cons_self
    have plain : c ≠ 'Σ' ∧ c ≠ 'İ' :=
      forall_ascii (p := fun c => c ≠ 'Σ' ∧ c ≠ 'İ') (by decide +kernel) c here
    rw [lowercaseAfter, if_neg plain.1, lowerChar, if_neg plain.2,
      ih fun d mem => ascii d (List.mem_cons_of_mem c mem)]
    rfl

theorem lowercaseChars_of_ascii {cs : List Char} (ascii : ∀ c ∈ cs, c.toNat < 128) :
    lowercaseChars cs = cs.map lowerSimple :=
  lowercaseAfter_of_ascii ascii []

/-- A visible text in lower case is visible, and lower case leaves it as it is. -/
theorem lowercaseChars_of_visible {cs : List Char} (visible : ∀ c ∈ cs, IsVisible c) :
    (∀ c ∈ lowercaseChars cs, IsVisible c) ∧
      lowercaseChars (lowercaseChars cs) = lowercaseChars cs := by
  have lower := lowercaseChars_of_ascii fun c mem => (visible c mem).ascii
  have visible' : ∀ c ∈ lowercaseChars cs, IsVisible c := by
    rw [lower]
    intro c mem
    obtain ⟨d, inside, rfl⟩ := List.mem_map.mp mem
    exact (visible d inside).lowerSimple
  exact ⟨visible', lowercaseChars_lowercaseChars cs⟩

theorem trimChars_of_visible {cs : List Char} (visible : ∀ c ∈ cs, IsVisible c) :
    trimChars cs = cs :=
  trimChars_of_not_isBlank fun c mem => (visible c mem).not_blank

end Text

open Text (IsVisible)

/-- Of a visible text in lower case that does not end in a dot, the canonical form as a rule takes
the dots in front only. -/
theorem Bypass.canonicalChars_of_visible {cs : List Char} (visible : ∀ c ∈ cs, IsVisible c)
    (lower : Text.lowercaseChars cs = cs) (undotted : cs.getLast? ≠ some '.') :
    canonicalChars cs = cs.dropWhile (· == '.') := by
  have inner : ∀ c ∈ cs.dropWhile (· == '.'), IsVisible c := fun c mem =>
    visible c ((List.dropWhile_sublist _).subset mem)
  rw [canonicalChars, Text.normalChars, Text.trimChars_of_visible visible, Text.withoutDot,
    if_neg undotted, lower, Text.trimChars_of_visible inner]

namespace Ipv4

theorem ascii_of_isDigit {c : Char} (digit : c.isDigit = true) : c.toNat < 128 := by
  have below := (Char.isDigit_iff_toNat.mp digit).2
  have nine : '9'.toNat = 57 := rfl
  omega

theorem isVisible_of_isDigit {c : Char} (digit : c.isDigit = true) : IsVisible c :=
  Text.forall_ascii (p := fun c => c.isDigit = true → IsVisible c) (by decide +kernel) c
    (ascii_of_isDigit digit) digit

theorem isOctet_toDigits {n : Nat} (small : n ≤ 255) : IsOctet (Nat.toDigits 10 n) n where
  nonempty := Nat.toDigits_ne_nil
  digits := fun _ mem => Nat.isDigit_of_mem_toDigits (by decide) (by decide) mem
  value := Nat.ofDigitChars_toDigits (by decide) (by decide)
  small := small

/-- The text of an address is a dotted quad of its value. -/
theorem isQuad_quad (a : Ipv4) : IsQuad a.quad a.toNat := by
  have bounded : a.toNat < 2 ^ 32 := a.bits.toNat_lt
  refine ⟨_, _, _, _, a.toNat / 0x1000000, a.toNat / 0x10000 % 0x100, a.toNat / 0x100 % 0x100,
    a.toNat % 0x100, intercalate_four _ _ _ _, isOctet_toDigits ?_, isOctet_toDigits ?_,
    isOctet_toDigits ?_, isOctet_toDigits ?_, ?_⟩
  all_goals omega

/-- An address is read back from its text. -/
theorem ofQuad?_quad (a : Ipv4) : ofQuad? a.quad = some a :=
  (ofQuad?_eq_some_iff _ a).mpr a.isQuad_quad

theorem toList_text (a : Ipv4) : a.text.toList = a.quad :=
  String.toList_ofList

theorem IsQuad.forall_mem {cs : List Char} {v : Nat} {p : Char → Prop} (h : IsQuad cs v)
    (dot : p '.') (digit : ∀ c : Char, c.isDigit = true → p c) : ∀ c ∈ cs, p c := by
  obtain ⟨g₁, g₂, g₃, g₄, n₁, n₂, n₃, n₄, rfl, h₁, h₂, h₃, h₄, _⟩ := h
  have group : ∀ {g n}, IsOctet g n → ∀ c ∈ g, p c := fun h c mem => digit c (h.digits c mem)
  intro c mem
  simp only [List.mem_append, List.mem_cons] at mem
  rcases mem with mem | rfl | mem | rfl | mem | rfl | mem
  · exact group h₁ c mem
  · exact dot
  · exact group h₂ c mem
  · exact dot
  · exact group h₃ c mem
  · exact dot
  · exact group h₄ c mem

/-- Lower case leaves a dotted quad as it is. -/
theorem IsQuad.lowercaseChars {cs : List Char} {v : Nat} (h : IsQuad cs v) :
    Text.lowercaseChars cs = cs := by
  have same : ∀ c ∈ cs, Text.lowerSimple c = id c := by
    apply h.forall_mem (p := fun c => Text.lowerSimple c = id c) rfl
    intro c digit
    exact Text.forall_ascii (p := fun c => c.isDigit = true → Text.lowerSimple c = c)
      (by decide +kernel) c (ascii_of_isDigit digit) digit
  rw [Text.lowercaseChars_of_ascii (h.forall_mem (by decide) fun _ => ascii_of_isDigit),
    List.map_congr_left same, List.map_id]

theorem lowercase_text (a : Ipv4) : Text.lowercase a.text = a.text := by
  rw [Text.lowercase, text, String.toList_ofList, a.isQuad_quad.lowercaseChars]

theorem isVisible_text (a : Ipv4) : ∀ c ∈ a.text.toList, IsVisible c := by
  rw [toList_text]
  exact a.isQuad_quad.forall_mem (by decide) fun _ => isVisible_of_isDigit

end Ipv4

end Egress
