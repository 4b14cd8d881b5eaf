import Mathlib.Data.List.Basic
import Egress.Text.Normal

/-!
# Lower case a second time

The lower-case form of a character has no lower-case form but itself, and it is a dot or a blank
only if the character was that already. So a text that is in lower case is left as it is, together
with every choice of its characters, and dots and blanks stay where they are. A text cannot be put
into lower case piece by piece, though: how `Σ` is written depends on what stands around it.
-/

namespace Egress.Text

namespace CaseRun

def image (r : CaseRun) (n : Nat) : Nat :=
  (n + r.shift).toNat

/-- Whether a run takes none of its code points into another run. -/
def misses (r s : CaseRun) : Bool :=
  Nat.blt s.last (r.image r.first) || Nat.blt (r.image r.last) s.first ||
    (List.range (r.last + 1 - r.first)).all fun i =>
      !(r.holds (r.first + i) && s.holds (r.image (r.first + i)))

theorem between_of_holds {r : CaseRun} {n : Nat} (held : r.holds n = true) :
    r.first ≤ n ∧ n ≤ r.last := by
  simp only [holds, Bool.and_eq_true, decide_eq_true_eq] at held
  exact held.1

theorem holds_image_of_misses {r s : CaseRun} (misses : r.misses s = true) {n : Nat}
    (held : r.holds n = true) : s.holds (r.image n) = false := by
  obtain ⟨first, last⟩ := between_of_holds held
  by_contra reached
  rw [Bool.not_eq_false] at reached
  obtain ⟨above, below⟩ := between_of_holds reached
  simp only [CaseRun.misses, Bool.or_eq_true, Nat.blt_eq] at misses
  rcases misses with (before | behind) | apart
  · have least : r.image r.first ≤ r.image n := by
      simp only [image]
      omega
    omega
  · have greatest : r.image n ≤ r.image r.last := by
      simp only [image]
      omega
    omega
  · rw [List.all_eq_true] at apart
    have here := apart (n - r.first) (List.mem_range.mpr (by omega))
    rw [Nat.add_sub_cancel' first, held, reached] at here
    cases here

end CaseRun

/-- Ranges to which no run leads. The dot, all blanks, `İ` and `Σ` lie in them. -/
def stillRuns : List CaseRun := [
  ⟨0x09, 0x2e, 1, 0⟩, ⟨0x85, 0xa0, 1, 0⟩, ⟨0x130, 0x130, 1, 0⟩, ⟨0x3a3, 0x3a3, 1, 0⟩,
  ⟨0x1680, 0x1680, 1, 0⟩, ⟨0x2000, 0x205f, 1, 0⟩, ⟨0x3000, 0x3000, 1, 0⟩]

theorem misses_of_mem : ∀ r ∈ lowerRuns, ∀ s ∈ lowerRuns ++ stillRuns, r.misses s = true := by
  have all : (lowerRuns.all fun r => (lowerRuns ++ stillRuns).all r.misses) = true := by
    decide +kernel
  simpa only [List.all_eq_true] using all

theorem holds_zero : ∀ s ∈ lowerRuns ++ stillRuns, s.holds 0 = false := by
  have all : ((lowerRuns ++ stillRuns).all fun s => !s.holds 0) = true := by
    decide +kernel
  simpa only [List.all_eq_true, Bool.not_eq_true'] using all

/-- A character that neither the runs nor the ranges they do not lead to hold. -/
def IsSettled (c : Char) : Prop :=
  ∀ s ∈ lowerRuns ++ stillRuns, s.holds c.toNat = false

theorem isSettled_image {r : CaseRun} (mem : r ∈ lowerRuns) {n : Nat} (held : r.holds n = true) :
    IsSettled (Char.ofNat (r.image n)) := by
  intro s mem'
  by_cases valid : (r.image n).isValidChar
  · rw [Char.ofNat, dif_pos valid]
    exact CaseRun.holds_image_of_misses (misses_of_mem r mem s mem') held
  · rw [Char.ofNat, dif_neg valid]
    exact holds_zero s mem'

def capitals : CaseRun :=
  ⟨0x41, 0x5a, 1, 32⟩

theorem capitals_mem : capitals ∈ lowerRuns :=
  List.mem_cons_self

theorem holds_capitals_iff (c : Char) : capitals.holds c.toNat = true ↔ 'A' ≤ c ∧ c ≤ 'Z' := by
  change (decide (0x41 ≤ c.toNat) && decide (c.toNat ≤ 0x5a) &&
    (c.toNat - 0x41) % 1 == 0) = true ↔ _
  simp only [Nat.mod_one, beq_self_eq_true, Bool.and_true, Bool.and_eq_true, decide_eq_true_eq,
    Char.le_def, UInt32.le_iff_toNat_le]
  rfl

/-- What has another character as its lower-case form leads out of the runs. -/
theorem lowerSimple_eq_or_settled (c : Char) : lowerSimple c = c ∨ IsSettled (lowerSimple c) := by
  unfold lowerSimple
  split
  · split
    · next letter =>
      exact Or.inr (isSettled_image capitals_mem ((holds_capitals_iff c).mpr letter))
    · exact Or.inl rfl
  · split
    · next r found =>
      right
      exact isSettled_image (List.mem_of_find?_eq_some found)
        (List.find?_some (p := fun r : CaseRun => r.holds c.toNat) found)
    · exact Or.inl rfl

theorem lowerSimple_of_not_holds {c : Char} (out : ∀ r ∈ lowerRuns, ¬ r.holds c.toNat = true) :
    lowerSimple c = c := by
  unfold lowerSimple
  rw [if_neg (mt (holds_capitals_iff c).mpr (out _ capitals_mem)), List.find?_eq_none.mpr out]
  exact ite_self c

theorem lowerSimple_lowerSimple (c : Char) : lowerSimple (lowerSimple c) = lowerSimple c := by
  rcases lowerSimple_eq_or_settled c with same | settled
  · rw [same, same]
  · apply lowerSimple_of_not_holds
    intro r mem
    rw [settled r (List.mem_append_left _ mem)]
    exact Bool.false_ne_true

/-- The runs do not begin in the still ranges either. -/
theorem apart_of_mem : ∀ r ∈ lowerRuns, ∀ s ∈ stillRuns, r.last < s.first ∨ s.last < r.first := by
  decide +kernel

theorem lowerSimple_still {c : Char} {s : CaseRun} (mem : s ∈ stillRuns)
    (still : s.holds c.toNat = true) : lowerSimple c = c := by
  apply lowerSimple_of_not_holds
  intro r mem' held
  have inside := CaseRun.between_of_holds held
  have inside' := CaseRun.between_of_holds still
  rcases apart_of_mem r mem' s mem with before | behind
  · omega
  · omega

/-- A character of the still ranges is the lower-case form of no other. -/
theorem eq_of_lowerSimple_still {c d : Char} {s : CaseRun} (mem : s ∈ stillRuns)
    (still : s.holds d.toNat = true) (form : lowerSimple c = d) : c = d := by
  rcases lowerSimple_eq_or_settled c with same | settled
  · rw [← same, form]
  · rw [form] at settled
    rw [settled s (List.mem_append_right _ mem)] at still
    cases still

/-- A character that lower case leaves alone, whatever stands around it. -/
def IsLower (c : Char) : Prop :=
  lowerSimple c = c ∧ c ≠ 'İ' ∧ c ≠ 'Σ'

instance (c : Char) : Decidable (IsLower c) :=
  inferInstanceAs (Decidable (lowerSimple c = c ∧ c ≠ 'İ' ∧ c ≠ 'Σ'))

/-- The lower-case form of a character that stands between others; those before it are given nearest
first. -/
def lowerForm (before : List Char) (c : Char) (after : List Char) : List Char :=
  if c = 'Σ' then [if endsWord before after then 'ς' else 'σ'] else lowerChar c

theorem lowercaseAfter_cons (before : List Char) (c : Char) (cs : List Char) :
    lowercaseAfter before (c :: cs) = lowerForm before c cs ++ lowercaseAfter (c :: before) cs :=
  rfl

theorem lowerForm_of_isLower {c : Char} (lower : IsLower c) (before after : List Char) :
    lowerForm before c after = [c] := by
  rw [lowerForm, if_neg lower.2.2, lowerChar, if_neg lower.2.1, lower.1]

/-- What stands for the two exceptions. -/
def exceptionForms : List Char := ['ς', 'σ', 'i', '\u0307']

theorem isLower_of_mem_exceptionForms {d : Char} (mem : d ∈ exceptionForms) : IsLower d := by
  have all : (exceptionForms.all fun d => IsLower d) = true := by
    decide +kernel
  exact of_decide_eq_true (List.all_eq_true.mp all d mem)

theorem not_holds_of_mem_exceptionForms {d : Char} (mem : d ∈ exceptionForms) {s : CaseRun}
    (mem' : s ∈ stillRuns) : s.holds d.toNat = false := by
  have all :
      (exceptionForms.all fun d => stillRuns.all fun s => s.holds d.toNat = false) = true := by
    decide +kernel
  exact of_decide_eq_true (List.all_eq_true.mp (List.all_eq_true.mp all d mem) s mem')

/-- A lower-case form is one of the forms of the two exceptions, or comes from the runs. -/
theorem mem_lowerForm {before after : List Char} {c d : Char} (mem : d ∈ lowerForm before c after) :
    d ∈ exceptionForms ∨ c ≠ 'Σ' ∧ c ≠ 'İ' ∧ lowerSimple c = d := by
  unfold lowerForm at mem
  split at mem
  · left
    rw [List.mem_singleton] at mem
    rw [mem]
    split <;> decide
  · next noSigma =>
    unfold lowerChar at mem
    split at mem
    · left
      exact List.mem_append_right ['ς', 'σ'] mem
    · next noDotted =>
      exact Or.inr ⟨noSigma, noDotted, (List.mem_singleton.mp mem).symm⟩

theorem holds_of_exception {c : Char} (exception : c = 'İ' ∨ c = 'Σ') :
    ∃ s ∈ stillRuns, s.holds c.toNat = true := by
  rcases exception with rfl | rfl <;> decide

theorem isLower_of_mem_lowerForm {before after : List Char} {c d : Char}
    (mem : d ∈ lowerForm before c after) : IsLower d := by
  rcases mem_lowerForm mem with special | ⟨noSigma, noDotted, form⟩
  · exact isLower_of_mem_exceptionForms special
  · have plain : ¬ (d = 'İ' ∨ d = 'Σ') := by
      intro exception
      obtain ⟨s, mem', still⟩ := holds_of_exception exception
      rw [← eq_of_lowerSimple_still mem' still form] at exception
      exact exception.elim noDotted noSigma
    rw [not_or] at plain
    exact ⟨by rw [← form, lowerSimple_lowerSimple], plain.1, plain.2⟩

theorem lowerForm_ne_nil (before : List Char) (c : Char) (after : List Char) :
    lowerForm before c after ≠ [] := by
  unfold lowerForm lowerChar
  repeat' split
  all_goals exact List.cons_ne_nil _ _

theorem isLower_of_mem_lowercaseAfter {before cs : List Char} {d : Char}
    (mem : d ∈ lowercaseAfter before cs) : IsLower d := by
  induction cs generalizing before with
  | nil => cases mem
  | cons c cs ih =>
    rw [lowercaseAfter_cons, List.mem_append] at mem
    rcases mem with here | later
    · exact isLower_of_mem_lowerForm here
    · exact ih later

theorem lowercaseAfter_of_isLower {cs : List Char} (lower : ∀ c ∈ cs, IsLower c)
    (before : List Char) : lowercaseAfter before cs = cs := by
  induction cs generalizing before with
  | nil => rfl
  | cons c cs ih =>
    rw [lowercaseAfter_cons, lowerForm_of_isLower (lower c List.mem_cons_self),
      ih fun d mem => lower d (List.mem_cons_of_mem c mem)]
    rfl

/-- A text is in lower case exactly if each of its characters is. -/
theorem lowercaseChars_eq_self_iff {cs : List Char} :
    lowercaseChars cs = cs ↔ ∀ c ∈ cs, IsLower c := by
  constructor
  · intro same c mem
    rw [← same] at mem
    exact isLower_of_mem_lowercaseAfter mem
  · intro lower
    exact lowercaseAfter_of_isLower lower []

theorem lowercase_eq_self_iff {t : String} : lowercase t = t ↔ ∀ c ∈ t.toList, IsLower c := by
  rw [← lowercaseChars_eq_self_iff, ← String.toList_inj, lowercase, String.toList_ofList]

theorem lowercaseChars_lowercaseChars (cs : List Char) :
    lowercaseChars (lowercaseChars cs) = lowercaseChars cs :=
  lowercaseChars_eq_self_iff.mpr fun _ mem => isLower_of_mem_lowercaseAfter mem

/-- A character that is the lower-case form of itself and of no other. -/
def IsCaseless (d : Char) : Prop :=
  ∀ before c after, d ∈ lowerForm before c after ↔ c = d

theorem IsCaseless.isLower {d : Char} (caseless : IsCaseless d) : IsLower d :=
  isLower_of_mem_lowerForm ((caseless [] d []).mpr rfl)

theorem lowerForm_of_caseless {d : Char} (caseless : IsCaseless d) (before after : List Char) :
    lowerForm before d after = [d] :=
  lowerForm_of_isLower caseless.isLower before after

theorem isCaseless_of_still {d : Char} {s : CaseRun} (mem : s ∈ stillRuns)
    (still : s.holds d.toNat = true) (lower : IsLower d) : IsCaseless d := by
  intro before c after
  constructor
  · intro form
    rcases mem_lowerForm form with special | ⟨_, _, same⟩
    · rw [not_holds_of_mem_exceptionForms special mem] at still
      cases still
    · exact eq_of_lowerSimple_still mem still same
  · rintro rfl
    rw [lowerForm_of_isLower lower]
    exact List.mem_singleton_self c

theorem isCaseless_dot : IsCaseless '.' :=
  isCaseless_of_still (s := ⟨0x09, 0x2e, 1, 0⟩) (by simp [stillRuns]) (by decide)
    ⟨by decide, by decide, by decide⟩

theorem isCaseless_comma : IsCaseless ',' :=
  isCaseless_of_still (s := ⟨0x09, 0x2e, 1, 0⟩) (by simp [stillRuns]) (by decide)
    ⟨by decide, by decide, by decide⟩

theorem holds_of_isBlank {c : Char} (blank : isBlank c = true) :
    ∃ s ∈ stillRuns, s.holds c.toNat = true := by
  simp only [isBlank, Bool.or_eq_true, Bool.and_eq_true, decide_eq_true_eq, beq_iff_eq] at blank
  simp only [stillRuns, List.mem_cons, List.not_mem_nil, or_false, exists_eq_or_imp,
    exists_eq_left, CaseRun.holds, Nat.mod_one, beq_self_eq_true, Bool.and_eq_true, and_true,
    decide_eq_true_eq]
  omega

theorem isCaseless_of_isBlank {c : Char} (blank : isBlank c = true) : IsCaseless c := by
  obtain ⟨s, mem, still⟩ := holds_of_isBlank blank
  have plain : c ≠ 'İ' ∧ c ≠ 'Σ' := by
    constructor <;> rintro rfl <;> cases blank
  exact isCaseless_of_still mem still ⟨lowerSimple_still mem still, plain⟩

/-- A caseless character does not come up if it was not there. -/
theorem mem_of_mem_lowercaseAfter {d : Char} (caseless : IsCaseless d) {before cs : List Char}
    (mem : d ∈ lowercaseAfter before cs) : d ∈ cs := by
  induction cs generalizing before with
  | nil => exact mem
  | cons c cs ih =>
    rw [lowercaseAfter_cons] at mem
    rcases List.mem_append.mp mem with here | later
    · rw [(caseless before c cs).mp here]
      exact List.mem_cons_self
    · exact List.mem_cons_of_mem c (ih later)

section Caseless

variable {p : Char → Bool}

/-- Caseless characters in front stay there. -/
theorem dropWhile_lowercaseAfter (caseless : ∀ c, p c = true → IsCaseless c)
    (before cs : List Char) :
    ∃ before',
      (lowercaseAfter before cs).dropWhile p = lowercaseAfter before' (cs.dropWhile p) := by
  induction cs generalizing before with
  | nil => exact ⟨before, rfl⟩
  | cons c cs ih =>
    by_cases goes : p c = true
    · obtain ⟨before', same⟩ := ih (c :: before)
      refine ⟨before', ?_⟩
      rw [lowercaseAfter_cons, lowerForm_of_caseless (caseless c goes), List.singleton_append,
        List.dropWhile_cons_of_pos goes, List.dropWhile_cons_of_pos goes, same]
    · refine ⟨before, ?_⟩
      rw [List.dropWhile_cons_of_neg goes, lowercaseAfter_cons]
      cases form : lowerForm before c cs with
      | nil => exact absurd form (lowerForm_ne_nil before c cs)
      | cons d ds =>
        have stays : ¬ p d = true := by
          intro goes'
          have mem : d ∈ lowerForm before c cs := by
            rw [form]
            exact List.mem_cons_self
          rw [← (caseless d goes' before c cs).mp mem] at goes'
          exact goes goes'
        rw [List.cons_append, List.dropWhile_cons_of_neg stays]

theorem head?_lowercaseAfter_eq_some_iff {d : Char} (caseless : IsCaseless d)
    {before cs : List Char} :
    (lowercaseAfter before cs).head? = some d ↔ cs.head? = some d := by
  cases cs with
  | nil => rfl
  | cons c cs =>
    rw [lowercaseAfter_cons, List.head?_append_of_ne_nil _ (lowerForm_ne_nil before c cs),
      List.head?_cons, Option.some_inj]
    constructor
    · intro first
      exact (caseless before c cs).mp (List.mem_of_head? first)
    · rintro rfl
      rw [lowerForm_of_caseless caseless]
      rfl

theorem lowercaseAfter_append (before cs ds : List Char) :
    ∃ es, lowercaseAfter before (cs ++ ds) = es ++ lowercaseAfter (cs.reverse ++ before) ds := by
  induction cs generalizing before with
  | nil => exact ⟨[], rfl⟩
  | cons c cs ih =>
    obtain ⟨es, same⟩ := ih (c :: before)
    refine ⟨lowerForm before c (cs ++ ds) ++ es, ?_⟩
    rw [List.cons_append, lowercaseAfter_cons, same, List.append_assoc, List.reverse_cons,
      List.append_assoc, List.singleton_append]

/-- Only caseless characters become caseless characters. -/
theorem lowercaseAfter_of_caseless_form {before cs : List Char}
    (caseless : ∀ d ∈ lowercaseAfter before cs, IsCaseless d) : lowercaseAfter before cs = cs := by
  induction cs generalizing before with
  | nil => rfl
  | cons c cs ih =>
    rw [lowercaseAfter_cons] at caseless ⊢
    rw [ih fun d mem => caseless d (List.mem_append_right _ mem)]
    obtain ⟨d, mem⟩ := List.exists_mem_of_ne_nil _ (lowerForm_ne_nil before c cs)
    have here := caseless d (List.mem_append_left _ mem)
    rw [(here before c cs).mp mem, lowerForm_of_caseless here, List.singleton_append]

/-- Caseless characters at the end were there before and stay there. -/
theorem suffix_lowercaseAfter_iff {ds : List Char} (caseless : ∀ d ∈ ds, IsCaseless d)
    {before cs : List Char} : ds <:+ lowercaseAfter before cs ↔ ds <:+ cs := by
  constructor
  · intro ends
    induction cs generalizing before with
    | nil => exact ends
    | cons c cs ih =>
      rw [lowercaseAfter_cons] at ends
      rcases List.suffix_or_suffix_of_suffix ends (List.suffix_append _ _)
        with inside | ⟨front, rfl⟩
      · exact (ih inside).trans (List.suffix_cons c cs)
      · have same : lowercaseAfter (c :: before) cs = cs :=
          lowercaseAfter_of_caseless_form fun d mem => caseless d (List.mem_append_right front mem)
        rw [same] at ends caseless ⊢
        cases front with
        | nil => exact List.suffix_cons c cs
        | cons e es =>
          obtain ⟨start, split⟩ := ends
          have mem : e ∈ lowerForm before c cs := by
            rw [← List.append_assoc, List.append_cancel_right_eq] at split
            rw [← split]
            exact List.mem_append_right _ List.mem_cons_self
          have here := caseless e (List.mem_append_left _ List.mem_cons_self)
          obtain rfl := (here before c cs).mp mem
          rw [lowerForm_of_caseless here] at split
          exact ⟨start, split⟩
  · rintro ⟨front, rfl⟩
    obtain ⟨es, same⟩ := lowercaseAfter_append before front ds
    rw [same, lowercaseAfter_of_isLower fun d mem => (caseless d mem).isLower]
    exact List.suffix_append es ds

end Caseless

end Egress.Text
