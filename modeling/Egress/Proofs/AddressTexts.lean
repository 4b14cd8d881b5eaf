import Egress.Proofs.VisibleTexts

/-!
# Addresses and blocks, read and written

What is written for an address is read as that address. The other way round, what is read is written
without the zeros in front of its groups that do not count, so the text comes back unless there are
any. This rests on one fact about numbers: the digits of the value of a group are the group without
such zeros.

A block is read in a fixed order of checks. The slash comes first, then the address before it, then
the length behind it, and the first check that fails decides what is reported.
-/

namespace Egress

namespace Ipv4

/-- A group of digits without the zeros in front that do not count. -/
def withoutZeros : List Char → List Char
  | '0' :: c :: cs => withoutZeros (c :: cs)
  | cs => cs

/-- A group begins with a zero and goes on. -/
def HasZeros (cs : List Char) : Prop :=
  ∃ c rest, cs = '0' :: c :: rest

theorem withoutZeros_sublist (cs : List Char) : (withoutZeros cs).Sublist cs := by
  fun_induction withoutZeros cs with
  | case1 c cs ih => exact ih.cons '0'
  | case2 cs _ => exact List.Sublist.refl cs

theorem withoutZeros_eq_self_iff (cs : List Char) : withoutZeros cs = cs ↔ ¬ HasZeros cs := by
  constructor
  · rintro same ⟨c, rest, rfl⟩
    have shorter := (withoutZeros_sublist (c :: rest)).length_le
    rw [← withoutZeros, same] at shorter
    simp at shorter
  · intro bare
    unfold withoutZeros
    split
    · next c rest => exact absurd ⟨c, rest, rfl⟩ bare
    · rfl

theorem toDigits_digit {c : Char} (digit : c.isDigit = true) :
    Nat.toDigits 10 (c.toNat - '0'.toNat) = [c] :=
  Text.forall_ascii (p := fun c => c.isDigit = true → Nat.toDigits 10 (c.toNat - '0'.toNat) = [c])
    (by decide +kernel) c (ascii_of_isDigit digit) digit

/-- Further digits are written behind those of a number that is not zero. -/
theorem toDigits_ofDigitChars {cs : List Char} (digits : ∀ c ∈ cs, c.isDigit = true) {n : Nat}
    (positive : 0 < n) : Nat.toDigits 10 (Nat.ofDigitChars 10 cs n) = Nat.toDigits 10 n ++ cs := by
  induction cs generalizing n with
  | nil => rw [Nat.ofDigitChars_nil, List.append_nil]
  | cons c cs ih =>
    have digit := digits c List.mem_cons_self
    have nine : '9'.toNat - '0'.toNat = 9 := rfl
    have small : c.toNat - '0'.toNat < 10 := by
      have below := (Char.isDigit_iff_toNat.mp digit).2
      omega
    have split : Nat.toDigits 10 (10 * n + (c.toNat - '0'.toNat)) = Nat.toDigits 10 n ++ [c] := by
      rw [← Nat.toDigits_append_toDigits (by decide) positive small, toDigits_digit digit]
    rw [Nat.ofDigitChars_cons, ih (fun d mem => digits d (List.mem_cons_of_mem c mem)) (by omega),
      split, List.append_assoc, List.singleton_append]

/-- The digits of the value of a group. -/
theorem toDigits_value {cs : List Char} (nonempty : cs ≠ [])
    (digits : ∀ c ∈ cs, c.isDigit = true) :
    Nat.toDigits 10 (Nat.ofDigitChars 10 cs 0) = withoutZeros cs := by
  fun_induction withoutZeros cs with
  | case1 c cs ih =>
    rw [Nat.ofDigitChars_cons]
    exact ih (List.cons_ne_nil c cs) fun d mem => digits d (List.mem_cons_of_mem '0' mem)
  | case2 cs bare =>
    obtain ⟨d, cs, rfl⟩ := List.exists_cons_of_ne_nil nonempty
    have digit := digits d List.mem_cons_self
    have others : ∀ c ∈ cs, c.isDigit = true := fun c mem => digits c (List.mem_cons_of_mem d mem)
    by_cases zero : d = '0'
    · cases cs with
      | nil =>
        rw [zero]
        rfl
      | cons c cs => exact absurd (zero ▸ rfl) (bare c cs)
    · have positive : 0 < d.toNat - '0'.toNat := by
        have above := (Char.isDigit_iff_toNat.mp digit).1
        have other : d.toNat ≠ '0'.toNat := fun same => zero (Char.toNat_inj.mp same)
        omega
      rw [Nat.ofDigitChars_cons, Nat.mul_zero, Nat.zero_add, toDigits_ofDigitChars others positive,
        toDigits_digit digit, List.singleton_append]

theorem IsOctet.toDigits {cs : List Char} {n : Nat} (h : IsOctet cs n) :
    Nat.toDigits 10 n = withoutZeros cs := by
  rw [← h.value, toDigits_value h.nonempty h.digits]

/-- The text of an address is that of any quad of its value, with every group freed of its zeros. -/
theorem IsQuad.quad_eq {cs : List Char} {a : Ipv4} (h : IsQuad cs a.toNat) :
    a.quad = ['.'].intercalate ((cs.splitOn '.').map withoutZeros) := by
  obtain ⟨g₁, g₂, g₃, g₄, n₁, n₂, n₃, n₄, groups, h₁, h₂, h₃, h₄, value⟩ := h.exists_groups
  have b₁ := h₁.small
  have b₂ := h₂.small
  have b₃ := h₃.small
  have b₄ := h₄.small
  have octets : a.octets = [n₁, n₂, n₃, n₄] := by
    simp only [Ipv4.octets, List.cons.injEq, and_true]
    omega
  rw [quad, octets, groups]
  simp only [List.map_cons, List.map_nil, h₁.toDigits, h₂.toDigits, h₃.toDigits, h₄.toDigits]

theorem IsQuad.isOctet_of_mem {cs g : List Char} {v : Nat} (h : IsQuad cs v)
    (mem : g ∈ cs.splitOn '.') : ∃ n, IsOctet g n := by
  obtain ⟨g₁, g₂, g₃, g₄, n₁, n₂, n₃, n₄, groups, h₁, h₂, h₃, h₄, _⟩ := h.exists_groups
  simp only [groups, List.mem_cons, List.not_mem_nil, or_false] at mem
  rcases mem with rfl | rfl | rfl | rfl
  · exact ⟨n₁, h₁⟩
  · exact ⟨n₂, h₂⟩
  · exact ⟨n₃, h₃⟩
  · exact ⟨n₄, h₄⟩

/-- A quad is the text of its value exactly if no group has zeros that do not count. -/
theorem IsQuad.quad_eq_self_iff {cs : List Char} {a : Ipv4} (h : IsQuad cs a.toNat) :
    a.quad = cs ↔ ∀ g ∈ cs.splitOn '.', ¬ HasZeros g := by
  have free : ∀ g ∈ (cs.splitOn '.').map withoutZeros, '.' ∉ g := by
    intro g mem dot
    obtain ⟨g', mem', rfl⟩ := List.mem_map.mp mem
    obtain ⟨n, octet⟩ := h.isOctet_of_mem mem'
    exact octet.dot_not_mem ((withoutZeros_sublist g').subset dot)
  have groups : a.quad.splitOn '.' = (cs.splitOn '.').map withoutZeros := by
    rw [h.quad_eq, List.splitOn_intercalate '.' free (by simp)]
  have joined : ['.'].intercalate (a.quad.splitOn '.') = a.quad := List.intercalate_splitOn '.'
  calc a.quad = cs
      ↔ (cs.splitOn '.').map withoutZeros = (cs.splitOn '.').map id := by
        rw [← groups, List.map_id]
        constructor
        · intro same
          rw [same]
        · intro same
          rw [← joined, same, List.intercalate_splitOn]
    _ ↔ ∀ g ∈ cs.splitOn '.', withoutZeros g = g := List.map_inj_left
    _ ↔ ∀ g ∈ cs.splitOn '.', ¬ HasZeros g :=
        forall₂_congr fun g _ => withoutZeros_eq_self_iff g

theorem parse_text (a : Ipv4) : parse a.text = .ok a := by
  rw [parse_eq_ok_iff, toList_text]
  exact a.isQuad_quad

theorem ofQuad?_eq_none_iff (cs : List Char) : ofQuad? cs = none ↔ ¬ ∃ v, IsQuad cs v := by
  rw [Option.eq_none_iff_forall_ne_some]
  constructor
  · rintro unread ⟨v, quad⟩
    apply unread (.ofNat v)
    rw [ofQuad?_eq_some_iff, toNat_ofNat quad.lt]
    exact quad
  · intro other a read
    exact other ⟨a.toNat, (ofQuad?_eq_some_iff cs a).mp read⟩

theorem parse_eq_error_iff (text : String) (e : AddressError) :
    parse text = .error e ↔ e = .notAnAddress text ∧ ¬ ∃ v, IsQuad text.toList v := by
  rw [← ofQuad?_eq_none_iff, parse]
  cases ofQuad? text.toList with
  | none => simp [eq_comm]
  | some a => simp

/-- Exactly the dotted quads are read, each as its value, and every other text is reported as it is.
What is written for an address is read as that address. What is read is written with its groups
freed of the zeros in front, so that it comes back exactly if no group begins with a zero that is
not all of it. -/
theorem quads_read_and_written (text : String) (a : Ipv4) :
    (parse text = .ok a ↔ IsQuad text.toList a.toNat) ∧
      (∀ e, parse text = .error e ↔ e = .notAnAddress text ∧ ¬ ∃ v, IsQuad text.toList v) ∧
      parse a.text = .ok a ∧
      (parse text = .ok a →
        a.text.toList = ['.'].intercalate ((text.toList.splitOn '.').map withoutZeros) ∧
          (a.text = text ↔ ∀ g ∈ text.toList.splitOn '.', ¬ HasZeros g)) := by
  refine ⟨parse_eq_ok_iff text a, parse_eq_error_iff text, a.parse_text, ?_⟩
  intro read
  have quad := (parse_eq_ok_iff text a).mp read
  refine ⟨a.toList_text.trans quad.quad_eq, ?_⟩
  rw [← quad.quad_eq_self_iff, ← toList_text, String.toList_inj]

theorem quads_read_and_written_zeros :
    parse "192.168.001.010" = .ok (.ofOctets 192 168 1 10) ∧
      (Ipv4.ofOctets 192 168 1 10).text.toList = "192.168.1.10".toList ∧
      (Ipv4.ofOctets 192 168 1 10).text ≠ "192.168.001.010" := by
  have read : parse "192.168.001.010" = .ok (.ofOctets 192 168 1 10) := by rfl
  obtain ⟨_, _, _, back⟩ := quads_read_and_written "192.168.001.010" (.ofOctets 192 168 1 10)
  refine ⟨read, (back read).1.trans (by decide), ?_⟩
  rw [ne_eq, (back read).2]
  intro bare
  exact bare ['0', '0', '1'] (by decide) ⟨'0', ['1'], rfl⟩

end Ipv4

namespace Block

open Ipv4 (IsQuad)

/-- What is found in a text, as a block or as an error, by what stands before and behind its first
slash. -/
inductive Finding (text : String) : Except AddressError Block → Prop where
  /-- There is no slash. -/
  | unslashed (free : '/' ∉ text.toList) : Finding text (.error (.badLength text))
  /-- There is no address before the slash; what stands behind it has no say. -/
  | noAddress {front back : List Char} (split : text.toList = front ++ '/' :: back)
      (first : '/' ∉ front) (other : ¬ ∃ v, IsQuad front v) :
      Finding text (.error (.notAnAddress (String.ofList front)))
  /-- There is no length behind an address. -/
  | noLength {front back : List Char} {v : Nat} (split : text.toList = front ++ '/' :: back)
      (quad : IsQuad front v) (other : ¬ ∃ n, IsLength back n) :
      Finding text (.error (.badLength text))
  | block {front back : List Char} {b : Block} (split : text.toList = front ++ '/' :: back)
      (quad : IsQuad front b.base.toNat) (length : IsLength back b.length) : Finding text (.ok b)

theorem length?_eq_none_iff (cs : List Char) : length? cs = none ↔ ¬ ∃ n, IsLength cs n := by
  rw [Option.eq_none_iff_forall_ne_some, not_exists]
  exact forall_congr' fun n => not_congr (length?_eq_some_iff cs n)

theorem parse_of_slash_not_mem {text : String} (free : '/' ∉ text.toList) :
    parse text = .error (.badLength text) := by
  have none : text.toList.dropWhile (· != '/') = [] := by
    rw [List.dropWhile_eq_nil_iff]
    intro c mem
    rw [bne_iff_ne]
    rintro rfl
    exact free mem
  simp only [parse, none]

/-- What the checks find is what is found. -/
theorem finding_parse (text : String) : Finding text (parse text) := by
  by_cases slashed : '/' ∈ text.toList
  · obtain ⟨front, back, split, first⟩ := List.eq_append_cons_of_mem slashed
    rw [parse_of_append_slash split first]
    cases base : Ipv4.parse (String.ofList front) with
    | error e =>
      obtain ⟨rfl, other⟩ := (Ipv4.parse_eq_error_iff _ e).mp base
      rw [String.toList_ofList] at other
      exact .noAddress split first other
    | ok a =>
      rw [Ipv4.parse_eq_ok_iff, String.toList_ofList] at base
      cases length : length? back with
      | none => exact .noLength split base ((length?_eq_none_iff back).mp length)
      | some n => exact .block split base ((length?_eq_some_iff back n).mp length)
  · rw [parse_of_slash_not_mem slashed]
    exact .unslashed slashed

/-- There is nothing else to be found. -/
theorem Finding.parse_eq {text : String} {r : Except AddressError Block} (found : Finding text r) :
    parse text = r := by
  cases found with
  | unslashed free => exact parse_of_slash_not_mem free
  | @noAddress front back split first other =>
    have unread :
        Ipv4.parse (String.ofList front) = .error (.notAnAddress (String.ofList front)) := by
      rw [Ipv4.parse_eq_error_iff, String.toList_ofList]
      exact ⟨rfl, other⟩
    rw [parse_of_append_slash split first, unread]
    rfl
  | @noLength front back v split quad other =>
    have read : Ipv4.parse (String.ofList front) = .ok (.ofNat v) := by
      rw [Ipv4.parse_eq_ok_iff, String.toList_ofList, Ipv4.toNat_ofNat quad.lt]
      exact quad
    rw [parse_of_append_slash split quad.slash_not_mem, read, (length?_eq_none_iff back).mpr other]
    rfl
  | @block front back b split quad length =>
    have slashed : '/' ∈ text.toList := by simp [split]
    exact (parse_eq_ok_iff slashed b).mpr ⟨front, back, split, quad, length⟩

theorem isLength_toDigits {n : Nat} (small : n ≤ 32) : IsLength (Nat.toDigits 10 n) n where
  short := by
    have all : ∀ n, n ≤ 32 → (Nat.toDigits 10 n).length = 1 ∨ (Nat.toDigits 10 n).length = 2 := by
      decide
    exact all n small
  digits := fun _ mem => Nat.isDigit_of_mem_toDigits (by decide) (by decide) mem
  value := Nat.ofDigitChars_toDigits (by decide) (by decide)
  small := small

def text (b : Block) : String :=
  b.base.text ++ "/" ++ String.ofList (Nat.toDigits 10 b.length)

theorem parse_text {b : Block} (small : b.length ≤ 32) : parse b.text = .ok b := by
  have split : b.text.toList = b.base.quad ++ '/' :: Nat.toDigits 10 b.length := by
    simp [text, Ipv4.toList_text]
  exact (Finding.block split b.base.isQuad_quad (isLength_toDigits small)).parse_eq

/-- What is read from a text is what is found in it: the whole text is reported if it has no slash,
or no length behind an address, and what stands before the first slash if that is no address,
whatever follows. What is written for a block is read as that block. -/
theorem blocks_read_and_written :
    (∀ text r, parse text = r ↔ Finding text r) ∧
      ∀ b : Block, b.length ≤ 32 → parse b.text = .ok b := by
  refine ⟨?_, fun b small => parse_text small⟩
  intro text r
  constructor
  · rintro rfl
    exact finding_parse text
  · exact Finding.parse_eq

/-- Neither the address nor the length can be read here, and it is the address that is reported. -/
theorem blocks_read_and_written_precedence :
    parse "10.0.0/99/8" = .error (.notAnAddress "10.0.0") ∧
      (⟨.ofOctets 10 0 0 0, 8⟩ : Block).length ≤ 32 ∧
      parse "10.0.0.0/8" = .ok ⟨.ofOctets 10 0 0 0, 8⟩ := by
  obtain ⟨read, written⟩ := blocks_read_and_written
  have small : (⟨.ofOctets 10 0 0 0, 8⟩ : Block).length ≤ 32 := by decide
  have split : "10.0.0/99/8".toList = "10.0.0".toList ++ '/' :: "99/8".toList := by decide
  have other : ¬ ∃ v, IsQuad "10.0.0".toList v :=
    (Ipv4.ofQuad?_eq_none_iff "10.0.0".toList).mp (by decide)
  exact ⟨(read _ _).mpr (.noAddress split (by decide) other), small, written _ small⟩

end Block

end Egress
