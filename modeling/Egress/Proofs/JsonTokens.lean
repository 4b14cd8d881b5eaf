import Mathlib.Data.List.TakeWhile
import Egress.Json.Reader
import Egress.Json.Writer

/-!
# Written words, strings and integers are read back

What the writer makes of a word, a string or an integer is read back by the reader, which stops
right behind it. A number has no end mark of its own, so what comes behind it must not go on with
it. Doubles are left out: they are not always read back as the number that was written.
-/

namespace Egress.Json

theorem readWord_append (word rest : List Char) :
    readWord word (word ++ rest) = .ok ((), rest) := by
  induction word with
  | nil => rfl
  | cons w word ih =>
    rw [List.cons_append, readWord, if_pos rfl, ih]

/-! ## Strings -/

/-- What is written for a character: a backslash with something that means the character, or the
character as it is. A line end is never written as it is. -/
inductive Escaped (c : Char) : List Char → Prop where
  | escape {e : List Char} (oneLine : '\n' ∉ e)
      (reads : ∀ rest, readEscape (e ++ rest) = .ok (c, e.length)) : Escaped c ('\\' :: e)
  | plain (noQuote : c ≠ '"') (noBackslash : c ≠ '\\') (printable : 32 ≤ c.toNat) : Escaped c [c]

/-- The four digits of a control character say its code. -/
theorem readEscape_unicodeEscape {c : Char} (control : c.toNat < 32) (rest : List Char) :
    readEscape
        (['u', '0', '0', Nat.digitChar (c.toNat / 16), Nat.digitChar (c.toNat % 16)] ++ rest) =
      .ok (c, 5) := by
  have value : ∀ n : Fin 32,
      hexUnit? ['0', '0', Nat.digitChar (n.val / 16), Nat.digitChar (n.val % 16)] = some n.val := by
    decide
  have unit : hexUnit? ['0', '0', Nat.digitChar (c.toNat / 16), Nat.digitChar (c.toNat % 16)] =
      some c.toNat := value ⟨c.toNat, control⟩
  have trail : isTrailUnit c.toNat = false := by
    simp only [isTrailUnit, Bool.and_eq_false_iff, decide_eq_false_iff_not]
    omega
  have lead : isLeadUnit c.toNat = false := by
    simp only [isLeadUnit, Bool.and_eq_false_iff, decide_eq_false_iff_not]
    omega
  have read : readUnicodeEscape
      ('0' :: '0' :: Nat.digitChar (c.toNat / 16) :: Nat.digitChar (c.toNat % 16) :: rest) =
        .ok (c, 4) := by
    simp only [readUnicodeEscape, readHexUnit, List.take_succ_cons, List.take_zero, unit, trail,
      lead, Bool.false_eq_true, if_false, Char.ofNat_toNat]
  simp only [List.cons_append, List.nil_append, readEscape, read]
  rfl

theorem escaped (c : Char) : Escaped c (escapeChar c) := by
  have named : ∀ e, '\n' ∉ [e] → (∀ rest, readEscape (e :: rest) = .ok (c, 1)) →
      Escaped c ['\\', e] :=
    fun e oneLine reads => .escape oneLine reads
  unfold escapeChar
  split
  · next same => exact named '"' (by decide) fun _ => by rw [same]; rfl
  split
  · next same => exact named '\\' (by decide) fun _ => by rw [same]; rfl
  split
  · next same => exact named 'b' (by decide) fun _ => by rw [same]; rfl
  split
  · next same => exact named 't' (by decide) fun _ => by rw [same]; rfl
  split
  · next same => exact named 'n' (by decide) fun _ => by rw [same]; rfl
  split
  · next same => exact named 'f' (by decide) fun _ => by rw [same]; rfl
  split
  · next same => exact named 'r' (by decide) fun _ => by rw [same]; rfl
  split
  · next control =>
    have digit : ∀ n : Fin 16, '\n' ≠ Nat.digitChar n.val := by
      decide
    have oneLine : '\n' ∉
        ['u', '0', '0', Nat.digitChar (c.toNat / 16), Nat.digitChar (c.toNat % 16)] := by
      simp [digit ⟨c.toNat / 16, by omega⟩, digit ⟨c.toNat % 16, by omega⟩]
    exact .escape oneLine (readEscape_unicodeEscape control)
  · next noQuote noBackslash _ _ _ _ _ printable =>
    exact .plain noQuote noBackslash (by omega)

theorem Escaped.newline_not_mem {c : Char} {cs : List Char} (h : Escaped c cs) : '\n' ∉ cs := by
  cases h with
  | escape oneLine reads => simpa using oneLine
  | plain noQuote noBackslash printable =>
    rw [List.mem_singleton]
    rintro rfl
    exact absurd printable (by decide)

theorem readStringFrom_skip (used rest : List Char) :
    readStringFrom used.length (used ++ rest) = readStringFrom 0 rest := by
  induction used with
  | nil => rfl
  | cons c used ih => exact ih

theorem Escaped.readStringFrom {c : Char} {cs : List Char} (h : Escaped c cs) (rest : List Char) :
    readStringFrom 0 (cs ++ rest) = (readStringFrom 0 rest).map fun (ds, r) => (c :: ds, r) := by
  cases h with
  | @escape e oneLine reads =>
    rw [List.cons_append, Json.readStringFrom, if_neg (by decide), if_pos rfl]
    simp only [reads, readStringFrom_skip]
  | plain noQuote noBackslash printable =>
    rw [List.singleton_append, Json.readStringFrom, if_neg noQuote, if_neg noBackslash,
      if_neg (by omega)]

theorem readStringFrom_escaped (cs rest : List Char) :
    readStringFrom 0 (cs.flatMap escapeChar ++ '"' :: rest) = .ok (cs, rest) := by
  induction cs with
  | nil => rfl
  | cons c cs ih =>
    rw [List.flatMap_cons, List.append_assoc, (escaped c).readStringFrom, ih]
    rfl

/-- A written string is read back from behind its first quotation mark. -/
theorem readString_written (s : String) (rest : List Char) :
    readString (s.toList.flatMap escapeChar ++ '"' :: rest) = .ok (s, rest) := by
  rw [readString, readStringFrom_escaped]
  simp only [Except.map, String.ofList_toList]

/-! ## Integers -/

/-- Behind a number there must be nothing that goes on with it. -/
def EndsNumber (rest : List Char) : Prop :=
  ∀ c, rest.head? = some c → c.isDigit = false ∧ c ≠ '.' ∧ c ≠ 'e' ∧ c ≠ 'E'

theorem EndsNumber.startsWithDigit {rest : List Char} (ends : EndsNumber rest) :
    startsWithDigit rest = false := by
  cases rest with
  | nil => rfl
  | cons c rest => exact (ends c rfl).1

theorem EndsNumber.takeWhile {rest : List Char} (ends : EndsNumber rest) :
    rest.takeWhile Char.isDigit = [] := by
  cases rest with
  | nil => rfl
  | cons c rest => rw [List.takeWhile_cons_of_neg (by simp [(ends c rfl).1])]

theorem EndsNumber.dropWhile {rest : List Char} (ends : EndsNumber rest) :
    rest.dropWhile Char.isDigit = rest := by
  cases rest with
  | nil => rfl
  | cons c rest => rw [List.dropWhile_cons_of_neg (by simp [(ends c rfl).1])]

theorem le_ofDigitChars (digits : List Char) (n : Nat) : n ≤ Nat.ofDigitChars 10 digits n := by
  induction digits generalizing n with
  | nil => exact Nat.le_refl n
  | cons d digits ih =>
    rw [Nat.ofDigitChars_cons]
    have more := ih (10 * n + (d.toNat - '0'.toNat))
    omega

/-- All digits of a number that fits are taken. -/
theorem absorb_of_lt {digits : List Char} {n : Nat}
    (fits : Nat.ofDigitChars 10 digits n < 0x10000000000000000) :
    absorb n digits = (Nat.ofDigitChars 10 digits n, digits.length) := by
  have zero : '0'.toNat = 48 := rfl
  induction digits generalizing n with
  | nil => rfl
  | cons d digits ih =>
    rw [Nat.ofDigitChars_cons, zero] at fits ⊢
    have small : 10 * n + (d.toNat - 48) < 0x10000000000000000 :=
      lt_of_le_of_lt (le_ofDigitChars digits _) fits
    simp only [absorb, if_pos small, ih fits, List.length_cons]

theorem readAfterWhole_of_ends {negative : Bool} {n : Nat} {rest : List Char}
    (ends : EndsNumber rest) :
    readAfterWhole negative n 0 rest = .ok (integerNumber negative n, rest) := by
  cases rest with
  | nil => rfl
  | cons c rest =>
    obtain ⟨_, point, small, large⟩ := ends c rfl
    rw [readAfterWhole, if_neg point, if_neg (by simp [small, large])]
    rfl

/-- Only the number zero has a zero in front. -/
theorem head_toDigits {n : Nat} (some : n ≠ 0) :
    ∃ d ds, Nat.toDigits 10 n = d :: ds ∧ d ≠ '0' := by
  induction n using Nat.strongRecOn with
  | ind n ih =>
    rw [Nat.toDigits_eq_if (by decide)]
    by_cases single : n < 10
    · have nonzero : ∀ m : Fin 10, m.val ≠ 0 → Nat.digitChar m.val ≠ '0' := by
        decide
      rw [if_pos single]
      exact ⟨_, [], rfl, nonzero ⟨n, single⟩ some⟩
    · obtain ⟨d, ds, front, other⟩ := ih (n / 10) (by omega) (by omega)
      rw [if_neg single, front]
      exact ⟨d, _, rfl, other⟩

/-- The digits of a number of 64 bits are read back as that number. -/
theorem readNumber_toDigits {n : Nat} (fits : n < 0x10000000000000000) (negative : Bool)
    {rest : List Char} (ends : EndsNumber rest) :
    readNumber negative (Nat.toDigits 10 n ++ rest) = .ok (integerNumber negative n, rest) := by
  by_cases zero : n = 0
  · subst zero
    have digits : Nat.toDigits 10 0 = ['0'] := rfl
    rw [digits, List.singleton_append, readNumber, if_pos rfl,
      if_neg (by simp [ends.startsWithDigit]), readAfterWhole_of_ends ends]
  · obtain ⟨d, ds, digits, other⟩ := head_toDigits zero
    have isDigit : ∀ c ∈ Nat.toDigits 10 n, c.isDigit = true := fun c mem =>
      Nat.isDigit_of_mem_toDigits (by decide) (by decide) mem
    have first : d.isDigit = true := isDigit d (by simp [digits])
    have taken : (Nat.toDigits 10 n ++ rest).takeWhile Char.isDigit = Nat.toDigits 10 n := by
      rw [List.takeWhile_append_of_pos isDigit, ends.takeWhile, List.append_nil]
    have left : (Nat.toDigits 10 n ++ rest).dropWhile Char.isDigit = rest := by
      rw [List.dropWhile_append_of_pos isDigit, ends.dropWhile]
    have value : absorb 0 (Nat.toDigits 10 n) = (n, (Nat.toDigits 10 n).length) := by
      rw [absorb_of_lt, Nat.ofDigitChars_ten_toDigits]
      rwa [Nat.ofDigitChars_ten_toDigits]
    have split : Nat.toDigits 10 n ++ rest = d :: (ds ++ rest) := by
      rw [digits, List.cons_append]
    rw [split, readNumber, if_neg other, if_pos first, ← split]
    simp only [taken, left, value, Nat.sub_self, readAfterWhole_of_ends ends]

end Egress.Json
