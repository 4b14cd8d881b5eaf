import Egress.Payload.Hydrate
import Egress.Proofs.Doubles
import Egress.Proofs.Trimming

/-!
# Ports that are read

A number that is given for a port goes through a double, however it is given: as an integer, as a
number with a fraction or as a text. None of this takes a number that is no port to one that is.
Whole numbers up to `2 ^ 53` are doubles, and a greater one is never rounded below a power of two
that it reaches; so rounding changes nothing up to `65535` and leads nowhere below `65536` from
above.

The whole numbers among the texts may have any number of digits. Of texts with a point or an
exponent it is only said that the port is the whole part of the double that they are read as.
-/

namespace Egress

namespace TypedNumber

/-- A whole number with a sign, rounded to a double; what is out of range is infinite. -/
def rounded (negative : Bool) (n : Nat) : TypedNumber :=
  (Binary64.ofNat? negative n).elim (.infinite negative) .finite

theorem ofDecimal?_zero (negative : Bool) (n : Nat) :
    Binary64.ofDecimal? negative n 0 = Binary64.ofNat? negative n := by
  by_cases zero : n = 0
  · rw [Binary64.ofDecimal?, if_pos zero, zero, Binary64.ofNat?_of_le negative (Nat.zero_le _),
      Nat.zero_mul]
    rfl
  · rw [Binary64.ofDecimal?, if_neg zero, if_pos (by decide), if_neg (by decide)]
    show Option.map _ (Binary64.finite? (Binary64.roundUnits (n * 1 * Binary64.one) 1)) = _
    rw [Nat.mul_one]
    rfl

/-- Digits alone are read as the number that they say, rounded. -/
theorem readUnsigned?_digits (negative : Bool) {digits : List Char} (nonempty : digits ≠ [])
    (digit : ∀ c ∈ digits, c.isDigit = true) :
    readUnsigned? negative digits = some (rounded negative (Nat.ofDigitChars 10 digits 0)) := by
  have taken : digits.takeWhile Char.isDigit = digits := List.takeWhile_eq_self_iff.mpr digit
  have left : digits.dropWhile Char.isDigit = [] := List.dropWhile_eq_nil_iff.mpr digit
  simp only [readUnsigned?, spanDigits, taken, left, List.isEmpty_eq_false_iff.mpr nonempty,
    Bool.false_and, readExponent?, List.append_nil, List.length_nil]
  rw [if_neg (by decide), Option.map_some]
  simp only [Nat.cast_zero, sub_zero, ofDecimal?_zero, rounded]
  cases Binary64.ofNat? negative (Nat.ofDigitChars 10 digits 0) <;> rfl

end TypedNumber

namespace Payload

open Text

/-- The number that a value is for a reader of ports, as a double. A blank text is none, and neither
is a null. -/
def numberOf? : Json → Option TypedNumber
  | .number (.integer n) => some (.rounded (decide (n < 0)) n.natAbs)
  | .number (.double x) => some (.finite x)
  | .string s => if allBlank s then none else TypedNumber.read? (trimChars s.toList)
  | _ => none

/-- The signs that a whole number may have, where `negative` tells the minus. Zero may have any. -/
inductive IsSignOf (n : Int) : Bool → List Char → Prop where
  | bare (nonnegative : 0 ≤ n) : IsSignOf n false []
  | plus (nonnegative : 0 ≤ n) : IsSignOf n false ['+']
  | minus (nonpositive : n ≤ 0) : IsSignOf n true ['-']

/-- A whole number as people type it: decimal digits, as many of them zeros in front as one likes,
after a sign or none and between blanks. -/
inductive IsNumeral (n : Int) : List Char → Prop where
  | intro {negative : Bool} {before sign digits after : List Char}
      (blankBefore : ∀ c ∈ before, isBlank c = true) (blankAfter : ∀ c ∈ after, isBlank c = true)
      (signed : IsSignOf n negative sign) (nonempty : digits ≠ [])
      (digit : ∀ c ∈ digits, c.isDigit = true) (value : Nat.ofDigitChars 10 digits 0 = n.natAbs) :
      IsNumeral n (before ++ (sign ++ digits) ++ after)

inductive Means (n : Int) : Json → Prop where
  | number : Means n (.number (.integer n))
  | text {s : String} (numeral : IsNumeral n s.toList) : Means n (.string s)

/-! ## Ports of whole numbers -/

theorem portOfInt?_eq (n : Int) :
    portOfInt? n = if n < 0 ∨ 65535 < n then none else some (UInt16.ofNat n.toNat) := by
  rw [portOfInt?, portOfNat?]
  by_cases negative : n < 0
  · rw [if_pos negative, if_pos (Or.inl negative)]
  · by_cases large : 65535 < n
    · rw [if_neg negative, if_neg (by omega), if_pos (Or.inr large)]
    · rw [if_neg negative, if_pos (by omega), if_neg (by omega)]

/-- Rounding a whole number changes nothing about its port. -/
theorem portOfNumber?_rounded (negative : Bool) (n : Nat) :
    portOfNumber? (.rounded negative n) =
      if negative = true ∧ n ≠ 0 then none else portOfNat? n := by
  rw [TypedNumber.rounded]
  by_cases small : n < 65536
  · rw [Binary64.ofNat?_of_le negative (by omega), Option.elim_some, portOfNumber?,
      Binary64.whole_mul_one]
    simp
  · have refused : ∀ m : Nat, 65536 ≤ m → portOfNat? m = none := fun m large => if_neg (by omega)
    rw [refused n (by omega), ite_self]
    cases rounded : Binary64.ofNat? negative n with
    | none => rfl
    | some x =>
      have large : 2 ^ 16 ≤ x.whole := Binary64.two_pow_le_whole (by omega) rounded
      rw [Option.elim_some, portOfNumber?, refused x.whole large, ite_self]

/-- The double next to a whole number has the port of that number, also where zero has a sign. -/
theorem portOfNumber?_of_signed {n : Int} {negative : Bool} {sign : List Char}
    (signed : IsSignOf n negative sign) :
    portOfNumber? (.rounded negative n.natAbs) = portOfInt? n := by
  have plain : 0 ≤ n → portOfNumber? (.rounded false n.natAbs) = portOfInt? n := by
    intro nonnegative
    have same : n.natAbs = n.toNat := by omega
    rw [portOfNumber?_rounded, if_neg (by simp), portOfInt?, if_neg (by omega), same]
  cases signed with
  | bare nonnegative => exact plain nonnegative
  | plus nonnegative => exact plain nonnegative
  | minus nonpositive =>
    by_cases zero : n = 0
    · rw [zero, portOfNumber?_rounded]
      rfl
    · rw [portOfNumber?_rounded, if_pos ⟨rfl, by omega⟩, portOfInt?, if_pos (by omega)]

/-! ## Numerals -/

theorem isBlank_of_isDigit {c : Char} (digit : c.isDigit = true) : isBlank c = false := by
  rw [Bool.eq_false_iff]
  intro blank
  simp only [Char.isDigit, Bool.and_eq_true, decide_eq_true_eq, ge_iff_le,
    UInt32.le_iff_toNat_le] at digit
  simp only [isBlank, Bool.or_eq_true, Bool.and_eq_true, decide_eq_true_eq, beq_iff_eq] at blank
  change 48 ≤ c.toNat ∧ c.toNat ≤ 57 at digit
  omega

theorem IsSignOf.not_isBlank {n : Int} {negative : Bool} {sign : List Char}
    (signed : IsSignOf n negative sign) : ∀ c ∈ sign, isBlank c = false := by
  cases signed with
  | bare => simp
  | plus => exact List.forall_mem_singleton.mpr rfl
  | minus => exact List.forall_mem_singleton.mpr rfl

/-- A sign in front of digits is read, and the digits behind it. -/
theorem read?_signed {n : Int} {negative : Bool} {sign digits : List Char}
    (signed : IsSignOf n negative sign) (nonempty : digits ≠ [])
    (digit : ∀ c ∈ digits, c.isDigit = true) :
    TypedNumber.read? (sign ++ digits) =
      some (.rounded negative (Nat.ofDigitChars 10 digits 0)) := by
  cases signed with
  | bare =>
    obtain ⟨d, ds, rfl⟩ := List.exists_cons_of_ne_nil nonempty
    have first : d.isDigit = true := digit d List.mem_cons_self
    rw [List.nil_append, ← TypedNumber.readUnsigned?_digits false nonempty digit]
    unfold TypedNumber.read?
    split
    · next same =>
      rw [(List.cons.inj same).1] at first
      exact absurd first (by decide)
    · next same =>
      rw [(List.cons.inj same).1] at first
      exact absurd first (by decide)
    · rfl
  | plus => exact TypedNumber.readUnsigned?_digits false nonempty digit
  | minus => exact TypedNumber.readUnsigned?_digits true nonempty digit

theorem IsNumeral.exists_signed {n : Int} {cs : List Char} (numeral : IsNumeral n cs) :
    ∃ negative sign digits, trimChars cs = sign ++ digits ∧ IsSignOf n negative sign ∧ digits ≠ [] ∧
      (∀ c ∈ digits, c.isDigit = true) ∧ Nat.ofDigitChars 10 digits 0 = n.natAbs := by
  obtain ⟨blankBefore, blankAfter, signed, nonempty, digit, value⟩ := numeral
  refine ⟨_, _, _, ?_, signed, nonempty, digit, value⟩
  rw [trimChars_between blankBefore _ blankAfter, trimChars_of_not_isBlank]
  intro c mem
  rcases List.mem_append.mp mem with mem | mem
  · exact signed.not_isBlank c mem
  · exact isBlank_of_isDigit (digit c mem)

/-- A numeral has the port of the number that it says. -/
theorem portOfText?_numeral {n : Int} {s : String} (numeral : IsNumeral n s.toList) :
    portOfText? s = portOfInt? n := by
  obtain ⟨negative, sign, digits, trimmed, signed, nonempty, digit, value⟩ := numeral.exists_signed
  have visible : ¬ allBlank s = true := by
    rw [allBlank, List.all_eq_true, ← trimChars_eq_nil_iff, trimmed, List.append_eq_nil_iff]
    exact fun empty => nonempty empty.2
  rw [portOfText?, if_neg visible, trimmed, read?_signed signed nonempty digit, Option.bind_some,
    value, portOfNumber?_of_signed signed]

theorem Means.portOf? {n : Int} {v : Json} (means : Means n v) : portOf? v = portOfInt? n := by
  cases means with
  | number => rfl
  | text numeral => exact portOfText?_numeral numeral

/-! ## Ports of any value -/

/-- An integer may be made a double first, as every other number is. -/
theorem portOf?_eq_of_numberOf? {v : Json} {x : TypedNumber} (found : numberOf? v = some x) :
    Payload.portOf? v = portOfNumber? x := by
  cases v with
  | number number =>
    cases number with
    | integer n =>
      obtain rfl := Option.some.inj found
      have signed : IsSignOf n (decide (n < 0)) (if n < 0 then ['-'] else []) := by
        by_cases negative : n < 0
        · rw [decide_eq_true negative, if_pos negative]
          exact .minus (by omega)
        · rw [decide_eq_false negative, if_neg negative]
          exact .bare (by omega)
      exact (portOfNumber?_of_signed signed).symm
    | double d =>
      obtain rfl := Option.some.inj found
      rfl
  | string s =>
    rw [numberOf?, Option.ite_none_left_eq_some] at found
    obtain ⟨visible, read⟩ := found
    rw [Payload.portOf?, portOfText?, if_neg visible, read, Option.bind_some]
  | null | bool | array | object => cases found

/-- A value that is no number for a reader of ports has no port. -/
theorem portOf?_of_no_number {v : Json} {p : UInt16} (none : numberOf? v = none)
    (read : portOf? v = some p) : p = 0 := by
  cases v with
  | number number => cases number <;> cases none
  | string s =>
    rw [portOf?, portOfText?] at read
    rw [numberOf?] at none
    split at read
    · exact (Option.some.inj read).symm
    · next visible =>
      rw [if_neg visible] at none
      rw [none] at read
      cases read
  | null => exact (Option.some.inj read).symm
  | bool | array | object => cases read

/-- A port that is not zero is the whole part of a number that is not negative. -/
theorem eq_finite_of_portOfNumber? {x : TypedNumber} {p : UInt16} (read : portOfNumber? x = some p)
    (nonzero : p ≠ 0) : ∃ d, x = .finite d ∧ d.negative = false ∧ d.whole = p.toNat := by
  cases x with
  | finite d =>
    obtain ⟨accepted, read⟩ := Option.ite_none_left_eq_some.mp read
    obtain ⟨small, same⟩ := Option.ite_none_right_eq_some.mp read
    have whole : p.toNat = d.whole := by
      rw [← Option.some.inj same]
      exact UInt16.toNat_ofNat_of_lt' small
    have positive : d.whole ≠ 0 := by
      rw [← whole]
      exact fun zero => nonzero (UInt16.toNat_inj.mp zero)
    refine ⟨d, rfl, ?_, whole.symm⟩
    simpa [positive] using accepted
  | infinite => cases read
  | nan => cases read

section Reading

variable (field : String) {v : Json}

theorem readPort_of_some {p : UInt16} (read : portOf? v = some p) :
    readPort field (some v) = pure p := by
  cases v with
  | null =>
    obtain rfl := Option.some.inj read
    rfl
  | bool | number | string | array | object => simp only [readPort, read]

theorem readPort_of_none (refused : portOf? v = none) :
    (readPort field (some v)).value = 0 ∧
      (readPort field (some v)).events = [.portInvalid field] := by
  simp only [readPort, refused]
  exact ⟨rfl, rfl⟩

/-- A port comes from a number whose whole part it is. -/
theorem exists_number_of_readPort {given : Option Json}
    (nonzero : (readPort field given).value ≠ 0) :
    ∃ v x, given = some v ∧ numberOf? v = some (.finite x) ∧ x.negative = false ∧
      x.whole = (readPort field given).value.toNat := by
  cases given with
  | none => exact absurd rfl nonzero
  | some v =>
    cases read : portOf? v with
    | none => exact absurd (readPort_of_none field read).1 nonzero
    | some p =>
      rw [readPort_of_some field read] at nonzero ⊢
      cases found : numberOf? v with
      | none => exact absurd (portOf?_of_no_number found read) nonzero
      | some x =>
        rw [portOf?_eq_of_numberOf? found] at read
        obtain ⟨d, rfl, negative, whole⟩ := eq_finite_of_portOfNumber? read nonzero
        exact ⟨v, d, rfl, found, negative, whole⟩

/-- A value that means a whole number is a port if the number is one, and reported if it lies
outside of the range from zero to the greatest port. -/
theorem readPort_of_means {n : Int} (means : Means n v) :
    ((readPort field (some v)).value.toNat : Int) = (if 1 ≤ n ∧ n ≤ 65535 then n else 0) ∧
      (readPort field (some v)).events =
        if n < 0 ∨ 65535 < n then [.portInvalid field] else [] := by
  have port := means.portOf?
  rw [portOfInt?_eq] at port
  by_cases outside : n < 0 ∨ 65535 < n
  · rw [if_pos outside] at port
    obtain ⟨value, events⟩ := readPort_of_none field port
    rw [value, events, if_pos outside, if_neg (by omega)]
    exact ⟨rfl, rfl⟩
  · rw [if_neg outside] at port
    have same : (UInt16.ofNat n.toNat).toNat = n.toNat := UInt16.toNat_ofNat_of_lt' (by simp; omega)
    rw [readPort_of_some field port, if_neg outside, Traced.value_pure, same]
    refine ⟨?_, rfl⟩
    split <;> omega

end Reading

/-- Ports never wrap around. A value that is a number is read through its double. Every value gives
zero or the whole part of this double, which then lies between one and the greatest port; and a
value that means a whole number, be it an integer or a numeral of any length, gives this number if
it is a port and zero otherwise, and is reported exactly if the number lies below zero or above all
ports. -/
theorem ports_never_wrap (field : String) :
    (∀ (v : Json) (x : TypedNumber), numberOf? v = some x → portOf? v = portOfNumber? x) ∧
    (∀ given : Option Json, (readPort field given).value = 0 ∨
      ∃ v x, given = some v ∧ numberOf? v = some (.finite x) ∧ x.negative = false ∧
        1 ≤ x.whole ∧ x.whole ≤ 65535 ∧ (readPort field given).value.toNat = x.whole) ∧
    (∀ (n : Int) (v : Json), Means n v →
      ((readPort field (some v)).value.toNat : Int) = (if 1 ≤ n ∧ n ≤ 65535 then n else 0) ∧
        (readPort field (some v)).events =
          if n < 0 ∨ 65535 < n then [.portInvalid field] else []) := by
  refine ⟨fun _ _ => portOf?_eq_of_numberOf?, ?_, fun _ _ => readPort_of_means field⟩
  intro given
  by_cases zero : (readPort field given).value = 0
  · exact Or.inl zero
  · obtain ⟨v, x, isGiven, number, negative, whole⟩ := exists_number_of_readPort field zero
    have positive : (readPort field given).value.toNat ≠ 0 :=
      fun none => zero (UInt16.toNat_inj.mp none)
    have bounded := (readPort field given).value.toNat_lt
    exact Or.inr ⟨v, x, isGiven, number, negative, by omega, by omega, whole.symm⟩

/-- The greatest port behind a wide blank and zeros, the number above it with a sign, and the
greatest integer. -/
theorem ports_never_wrap_borders :
    (Means 65535 (.string "\u30000065535 ") ∧
      (readPort "httpPort" (some (.string "\u30000065535 "))).value = 65535) ∧
    (Means 65536 (.string "+65536") ∧
      (readPort "httpPort" (some (.string "+65536"))).events = [.portInvalid "httpPort"]) ∧
    (Means 18446744073709551615 (.number (.integer 18446744073709551615)) ∧
      (readPort "httpPort" (some (.number (.integer 18446744073709551615)))).value = 0) := by
  have greatest : IsNumeral 65535 (['\u3000'] ++ ([] ++ "0065535".toList) ++ [' ']) :=
    .intro (List.all_eq_true.mp rfl) (List.all_eq_true.mp rfl) (.bare (by decide)) (by decide)
      (List.all_eq_true.mp rfl) rfl
  have above : IsNumeral 65536 ([] ++ (['+'] ++ "65536".toList) ++ []) :=
    .intro (List.all_eq_true.mp rfl) (List.all_eq_true.mp rfl) (.plus (by decide)) (by decide)
      (List.all_eq_true.mp rfl) rfl
  have means := Means.text (s := "\u30000065535 ") greatest
  have means' := Means.text (s := "+65536") above
  have port := ((ports_never_wrap "httpPort").2.2 _ _ means).1
  have reported := ((ports_never_wrap "httpPort").2.2 _ _ means').2
  have refused := ((ports_never_wrap "httpPort").2.2 _ _ (.number (n := 18446744073709551615))).1
  refine ⟨⟨means, ?_⟩, ⟨means', reported⟩, .number, ?_⟩
  · exact UInt16.toNat_inj.mp (Int.ofNat_inj.mp port)
  · exact UInt16.toNat_inj.mp (Int.ofNat_inj.mp refused)

end Payload

end Egress
