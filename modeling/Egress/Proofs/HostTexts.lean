import Egress.Route
import Egress.Proofs.VisibleTexts

/-!
# Hosts are visible texts

However a host comes into a URL, its text consists of visible ASCII characters, without a slash. For
names this goes along their way into ASCII: what a URL denies to names is refused after mapping, an
encoded label has letters, digits and hyphens only, and an opaque host has everything else escaped.
-/

namespace Egress

open Text (IsVisible)

theorem exists_of_map_eq_ok {ε α β : Type} {x : Except ε α} {f : α → β} {b : β}
    (mapped : x.map f = .ok b) : ∃ a, x = .ok a ∧ f a = b := by
  cases x with
  | error e => cases mapped
  | ok a => exact ⟨a, rfl, Except.ok.inj mapped⟩

theorem isVisible_digitChar (n : Nat) : IsVisible (Nat.digitChar n) := by
  by_cases small : n < 16
  · have all : ∀ n, n < 16 → IsVisible (Nat.digitChar n) := by decide
    exact all n small
  · -- There are no digits from sixteen on, and what is written for them is visible too.
    have star : Nat.digitChar n = '*' := by
      unfold Nat.digitChar
      repeat rw [if_neg (by omega)]
    rw [star]
    decide

theorem isVisible_toDigits {b : Nat} (base : 1 < b) (n : Nat) :
    ∀ c ∈ Nat.toDigits b n, IsVisible c := by
  induction n using Nat.strong_induction_on with
  | h n ih =>
    rw [Nat.toDigits_eq_if base]
    split
    · intro c mem
      rw [List.mem_singleton.mp mem]
      exact isVisible_digitChar n
    · next large =>
      have less : n / b < n := Nat.div_lt_self (by omega) base
      intro c mem
      rcases List.mem_append.mp mem with before | last
      · exact ih _ less c before
      · rw [List.mem_singleton.mp last]
        exact isVisible_digitChar (n % b)

/-- Pieces are put together from their characters and a separator. -/
theorem forall_mem_intercalate_iff {p : Char → Prop} {separator : Char} (separates : p separator)
    (pieces : List (List Char)) :
    (∀ c ∈ [separator].intercalate pieces, p c) ↔ ∀ piece ∈ pieces, ∀ c ∈ piece, p c := by
  induction pieces with
  | nil => simp
  | cons piece pieces ih =>
    by_cases last : pieces = []
    · simp [last]
    · rw [List.intercalate_cons_of_ne_nil last, List.forall_mem_append, List.forall_mem_append,
        ih, List.forall_mem_singleton, List.forall_mem_cons]
      constructor
      · rintro ⟨⟨here, _⟩, others⟩
        exact ⟨here, others⟩
      · rintro ⟨here, others⟩
        exact ⟨⟨here, separates⟩, others⟩

namespace Ipv6

theorem isVisible_groupChars (gs : List Nat) : ∀ c ∈ groupChars gs, IsVisible c := by
  rw [groupChars, forall_mem_intercalate_iff (by decide)]
  intro piece mem
  obtain ⟨g, _, rfl⟩ := List.mem_map.mp mem
  exact isVisible_toDigits (by decide) g

theorem isVisible_chars (a : Ipv6) : ∀ c ∈ a.chars, IsVisible c := by
  have colon : IsVisible ':' := by decide
  unfold chars
  split
  · intro c mem
    rcases List.mem_append.mp mem with mark | quad
    · simp only [List.mem_cons, List.not_mem_nil, or_false] at mark
      rcases mark with rfl | rfl | rfl | rfl | rfl | rfl | rfl <;> decide
    · exact (Ipv4.isQuad_quad _).forall_mem (by decide) (fun _ => Ipv4.isVisible_of_isDigit) c quad
  · simp only
    split
    · intro c mem
      simp only [List.mem_append, List.mem_cons, List.not_mem_nil, or_false] at mem
      rcases mem with (before | rfl | rfl) | after
      · exact isVisible_groupChars _ c before
      · exact colon
      · exact colon
      · exact isVisible_groupChars _ c after
    · exact isVisible_groupChars _

end Ipv6

namespace Domain

open Punycode

theorem isVisible_digit {d : Nat} (digit : d < 36) : IsVisible (digitChar d) := by
  have all : ∀ d, d < 36 → IsVisible (digitChar d) := by decide +kernel
  exact all d digit

theorem isVisible_numberChars (bias k q : Nat) : ∀ c ∈ numberChars bias k q, IsVisible c := by
  induction q using Nat.strong_induction_on generalizing k with
  | h q ih =>
    have low := threshold_pos k bias
    have high := threshold_le k bias
    rw [numberChars]
    split
    · next last =>
      intro c mem
      rw [List.mem_singleton.mp mem]
      exact isVisible_digit (by omega)
    · next more =>
      have position := Nat.mod_lt (q - threshold k bias) (y := 36 - threshold k bias) (by omega)
      have rest := Nat.div_le_self (q - threshold k bias) (36 - threshold k bias)
      intro c mem
      rcases List.mem_cons.mp mem with rfl | later
      · exact isVisible_digit (by omega)
      · exact ih _ (by omega) (k + 36) c later

/-- Passing a character leaves the output visible. -/
theorem isVisible_pass {basic code : Nat} {e : Encoding} (visible : ∀ c ∈ e.output, IsVisible c)
    (c : Char) : ∀ d ∈ (e.pass basic code c).output, IsVisible d := by
  unfold Encoding.pass
  split
  · exact visible
  · split
    · intro d mem
      rcases List.mem_append.mp mem with before | number
      · exact visible d before
      · exact isVisible_numberChars _ _ _ d number
    · exact visible

theorem isVisible_passes {basic code : Nat} (cs : List Char) {e : Encoding}
    (visible : ∀ c ∈ e.output, IsVisible c) :
    ∀ d ∈ (cs.foldl (Encoding.pass basic code) e).output, IsVisible d := by
  induction cs generalizing e with
  | nil => exact visible
  | cons c cs ih => exact ih (isVisible_pass visible c)

theorem isVisible_encodeCodes {label : List Char} {basic : Nat} (codes : List Nat) (start : Nat)
    {e : Encoding} (visible : ∀ c ∈ e.output, IsVisible c) :
    ∀ d ∈ (encodeCodes label basic codes start e).output, IsVisible d := by
  induction codes generalizing start e with
  | nil => exact visible
  | cons code codes ih =>
    rw [encodeCodes]
    apply ih
    apply isVisible_passes
    exact visible

theorem isVisible_of_not_denied {c : Char} (ascii : c.toNat < 128) (allowed : isDenied c = false) :
    IsVisible c :=
  Text.forall_ascii (p := fun c => isDenied c = false → IsVisible c) (by decide +kernel) c ascii
    allowed

theorem isVisible_encode {label : List Char} (allowed : ∀ c ∈ label, isDenied c = false) :
    ∀ c ∈ encode label, IsVisible c := by
  have hyphen : IsVisible '-' := by decide
  have basic : ∀ c ∈ label.filter isBasic, IsVisible c := by
    intro c mem
    obtain ⟨inside, ascii⟩ := List.mem_filter.mp mem
    exact isVisible_of_not_denied (by simpa [isBasic] using ascii) (allowed c inside)
  unfold encode
  apply isVisible_encodeCodes
  simp only
  split
  · simp
  · intro c mem
    rcases List.mem_append.mp mem with before | last
    · exact basic c before
    · rw [List.mem_singleton.mp last]
      exact hyphen

/-- The form of a label in ASCII is visible. -/
theorem isVisible_label {label : List Char} {l : Label}
    (allowed : ∀ c ∈ label, isDenied c = false) (made : Label.of? label = some l) :
    ∀ c ∈ l.ascii, IsVisible c := by
  have plain : label.all isAscii = true → ∀ c ∈ label, IsVisible c := by
    intro ascii c mem
    have isAscii := List.all_eq_true.mp ascii c mem
    exact isVisible_of_not_denied (by simpa [Domain.isAscii] using isAscii) (allowed c mem)
  unfold Label.of? at made
  split at made
  · split at made
    · next ascii =>
      obtain ⟨_, _, rfl⟩ := Option.map_eq_some_iff.mp made
      exact plain ascii
    · cases made
  · split at made
    · next ascii =>
      cases made
      exact plain ascii
    · split at made
      · cases made
        intro c mem
        rcases List.mem_append.mp mem with mark | digits
        · simp only [encodedMark, List.mem_cons, List.not_mem_nil, or_false] at mark
          rcases mark with rfl | rfl | rfl | rfl <;> decide
        · exact isVisible_encode allowed c digits
      · cases made

theorem isVisible_labels {labels : List (List Char)} {ls : List Label}
    (allowed : ∀ label ∈ labels, ∀ c ∈ label, isDenied c = false)
    (made : labels? labels = some ls) : ∀ l ∈ ls, ∀ c ∈ l.ascii, IsVisible c := by
  induction labels generalizing ls with
  | nil =>
    cases made
    simp
  | cons label labels ih =>
    rw [labels?] at made
    cases first : Label.of? label with
    | none =>
      rw [first] at made
      cases made
    | some l =>
      rw [first] at made
      obtain ⟨rest, others, rfl⟩ := Option.map_eq_some_iff.mp made
      intro l' mem
      rcases List.mem_cons.mp mem with rfl | later
      · exact isVisible_label (allowed label List.mem_cons_self) first
      · exact ih (fun label mem => allowed label (List.mem_cons_of_mem _ mem)) others l' later

/-- A name in ASCII is visible. -/
theorem isVisible_toAscii {name out : List Char} (made : toAscii? name = some out) :
    ∀ c ∈ out, IsVisible c := by
  unfold toAscii? at made
  split at made
  · cases made
  · next mapped _ =>
    simp only at made
    split at made
    · cases made
    · next allowed =>
      split at made
      · cases made
      · next labels labelled =>
        split at made
        · cases made
          have free : ∀ c ∈ ['.'].intercalate ((composed mapped).splitOn '.'),
              isDenied c = false := by
            rw [List.intercalate_splitOn]
            simpa using allowed
          rw [forall_mem_intercalate_iff (by decide)] at free
          rw [forall_mem_intercalate_iff (by decide)]
          intro piece mem
          obtain ⟨l, inside, rfl⟩ := List.mem_map.mp mem
          exact isVisible_labels free labelled l inside
        · cases made

end Domain

def Host.IsVisible (h : Host) : Prop :=
  ∀ c ∈ h.text.toList, Text.IsVisible c

namespace Url

theorem isVisible_percentEncodeByte (b : UInt8) : ∀ c ∈ percentEncodeByte b, IsVisible c := by
  have percent : IsVisible '%' := by decide
  have digits : ∀ n, n < 16 → IsVisible (upperHexDigit n) := by decide +kernel
  have bounded := b.toNat_lt
  intro c mem
  simp only [percentEncodeByte, List.mem_cons, List.not_mem_nil, or_false] at mem
  rcases mem with rfl | rfl | rfl
  · exact percent
  · exact digits _ (by omega)
  · exact digits _ (by omega)

theorem isVisible_opaqueChar {c : Char} (allowed : isForbidden c = false) :
    ∀ d ∈ opaqueChar c, IsVisible d := by
  unfold opaqueChar
  split
  · intro d mem
    obtain ⟨b, _, inside⟩ := List.mem_flatMap.mp mem
    exact isVisible_percentEncodeByte b d inside
  · next shown =>
    rw [List.forall_mem_singleton]
    have plain : ∀ c : Char, c.toNat < 128 →
        isForbidden c = false → ¬(c.toNat < 32 ∨ 126 < c.toNat) → IsVisible c :=
      Text.forall_ascii (by decide +kernel)
    exact plain c (by omega) allowed shown

theorem isVisible_bracketed {cs : List Char} {h : Host} (read : bracketed cs = .ok h) :
    h.IsVisible := by
  unfold bracketed at read
  split at read
  · split at read
    · next a _ =>
      cases read
      rw [Host.IsVisible, Host.text, Ipv6.text, String.toList_ofList]
      exact a.isVisible_chars
    · cases read
  · cases read

theorem isVisible_serverHost {cs : List Char} {h : Host} (read : serverHost cs = .ok h) :
    h.IsVisible := by
  unfold serverHost at read
  split at read
  · exact isVisible_bracketed read
  · split at read
    · cases read
    · split at read
      · cases read
      · next name made =>
        split at read
        · cases read
        · split at read
          · split at read
            · next a _ =>
              cases read
              exact a.isVisible_text
            · cases read
          · cases read
            rw [Host.IsVisible, Host.text, String.toList_ofList]
            exact Domain.isVisible_toAscii made

theorem isVisible_opaqueHost {cs : List Char} {h : Host} (read : opaqueHost cs = .ok (some h)) :
    h.IsVisible := by
  unfold opaqueHost at read
  split at read
  · obtain ⟨found, inside, same⟩ := exists_of_map_eq_ok read
    cases same
    exact isVisible_bracketed inside
  · split at read
    · cases read
    · next allowed =>
      split at read
      · cases read
      · cases read
        rw [Host.IsVisible, Host.text, String.toList_ofList]
        intro d mem
        obtain ⟨c, inside, made⟩ := List.mem_flatMap.mp mem
        have free : isForbidden c = false := by
          by_contra forbidden
          exact allowed (List.any_eq_true.mpr ⟨c, inside, by simpa using forbidden⟩)
        exact isVisible_opaqueChar free d made

theorem isVisible_fileHost {cs : List Char} {h : Host} (read : fileHost cs = .ok (some h)) :
    h.IsVisible := by
  unfold fileHost at read
  simp only at read
  split at read
  · cases read
  · split at read
    · cases read
    · next h' server =>
      split at read
      · cases read
      · split at read
        · cases read
        · cases read
          exact isVisible_serverHost server

theorem isVisible_authorityHost {k : SchemeClass} {cs : List Char} {h : Host}
    (read : authorityHost k cs = .ok (some h)) : h.IsVisible := by
  unfold authorityHost at read
  split at read
  · cases read
  · simp only at read
    split at read
    · cases read
    · split at read
      · cases read
      · split at read <;> cases read
    · next h' parsed =>
      split at read
      · cases read
        split at parsed
        · split at parsed
          · cases parsed
          · obtain ⟨found, server, same⟩ := exists_of_map_eq_ok parsed
            cases same
            exact isVisible_serverHost server
        · exact isVisible_opaqueHost parsed
      · cases read

theorem isVisible_hostAfter {k : SchemeClass} {cs : List Char} {h : Host}
    (read : hostAfter k cs = .ok (some h)) : h.IsVisible := by
  unfold hostAfter at read
  split at read
  · exact isVisible_authorityHost read
  · split at read
    · split at read
      · exact isVisible_fileHost read
      · cases read
    · cases read
  · split at read
    · exact isVisible_authorityHost read
    · cases read

/-- The host of every URL is visible. -/
theorem isVisible_of_parse {text : String} {u : Url} {h : Host} (read : parse text = .ok u)
    (host : u.host = some h) : h.IsVisible := by
  unfold parse at read
  split at read
  · cases read
  · obtain ⟨found, after, rfl⟩ := exists_of_map_eq_ok read
    obtain rfl : found = some h := host
    exact isVisible_hostAfter after

end Url

end Egress
