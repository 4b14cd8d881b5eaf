import Mathlib.Data.List.DropRight
import Mathlib.Data.List.TakeWhile
import Egress.Text.Normal

/-!
# Trimmed texts

What is left of a text after trimming, and how it begins and ends. A text is trimmed already exactly
if neither its first nor its last character is blank.
-/

namespace Egress.Text

theorem dropLastWhile_eq_nil_iff (p : Char → Bool) (cs : List Char) :
    dropLastWhile p cs = [] ↔ ∀ c ∈ cs, p c = true := by
  simp [dropLastWhile, List.dropWhile_eq_nil_iff]

/-- Nothing is left of a text exactly if it is blank. -/
theorem trimChars_eq_nil_iff (cs : List Char) :
    trimChars cs = [] ↔ ∀ c ∈ cs, isBlank c = true := by
  rw [trimChars, dropLastWhile_eq_nil_iff]
  constructor
  · intro inner c mem
    rw [← List.takeWhile_append_dropWhile (p := isBlank) (l := cs)] at mem
    rcases List.mem_append.mp mem with before | after
    · exact List.all_eq_true.mp List.all_takeWhile c before
    · exact inner c after
  · intro blank c mem
    exact blank c ((List.dropWhile_sublist isBlank).subset mem)

theorem isEmpty_trim_iff (s : String) :
    (trim s).isEmpty = true ↔ ∀ c ∈ s.toList, isBlank c = true := by
  rw [← trimChars_eq_nil_iff, trim, String.isEmpty_iff, ← String.toList_inj,
    String.toList_ofList]
  rfl

theorem dropLastWhile_isPrefix (p : Char → Bool) (cs : List Char) : dropLastWhile p cs <+: cs :=
  List.rdropWhile_prefix p cs

theorem trimChars_sublist (cs : List Char) : (trimChars cs).Sublist cs :=
  (dropLastWhile_isPrefix isBlank _).sublist.trans (List.dropWhile_sublist isBlank)

/-- The first character stays the first, unless it goes with all others. -/
theorem head?_dropLastWhile_eq_some_iff {p : Char → Bool} {cs : List Char} {d : Char}
    (stays : p d = false) : (dropLastWhile p cs).head? = some d ↔ cs.head? = some d := by
  obtain ⟨rest, split⟩ := dropLastWhile_isPrefix p cs
  cases left : dropLastWhile p cs with
  | nil =>
    have all := (dropLastWhile_eq_nil_iff p cs).mp left
    constructor
    · intro none
      cases none
    · intro first
      rw [all d (List.mem_of_head? first)] at stays
      cases stays
  | cons e es =>
    rw [← split, left]
    rfl

/-- What is dropped from the front of a text is dropped as far as the first character that stays. -/
theorem dropWhile_append_of_head {p : Char → Bool} {d : Char} (stays : p d = false)
    (front : List Char) {cs : List Char} (first : cs.head? = some d) :
    (front ++ cs).dropWhile p = front.dropWhile p ++ cs := by
  obtain ⟨rest, rfl⟩ := List.head?_eq_some_iff.mp first
  have kept : (d :: rest).dropWhile p = d :: rest := List.dropWhile_cons_of_neg (by simp [stays])
  rw [List.dropWhile_append, kept]
  split
  · next nothing => rw [List.isEmpty_iff.mp nothing, List.nil_append]
  · rfl

/-- What is taken off the end of a text is taken off as far as the last character that stays. -/
theorem dropLastWhile_append_cons {p : Char → Bool} {d : Char} (stays : p d = false)
    (before after : List Char) :
    dropLastWhile p (before ++ d :: after) = before ++ d :: dropLastWhile p after := by
  have first : ([d] ++ before.reverse).head? = some d := rfl
  rw [dropLastWhile, List.reverse_append, List.reverse_cons, List.append_assoc,
    dropWhile_append_of_head stays _ first, List.reverse_append, List.reverse_append,
    List.reverse_reverse, List.reverse_singleton, List.append_assoc, List.singleton_append,
    dropLastWhile]

theorem dropLastWhile_append {p : Char → Bool} {d : Char} (stays : p d = false)
    (before : List Char) {after : List Char} (goes : ∀ c ∈ after, p c = true) :
    dropLastWhile p (before ++ d :: after) = before ++ [d] := by
  rw [dropLastWhile_append_cons stays, (dropLastWhile_eq_nil_iff p after).mpr goes]

/-- What comes last when the end is taken off is a character that stays, with characters that go
after it. -/
theorem getLast?_dropLastWhile_eq_some_iff {p : Char → Bool} {cs : List Char} {d : Char} :
    (dropLastWhile p cs).getLast? = some d ↔
      p d = false ∧ ∃ after, (∀ c ∈ after, p c = true) ∧ (d :: after) <:+ cs := by
  constructor
  · intro last
    obtain ⟨before, left⟩ := List.getLast?_eq_some_iff.mp last
    have kept : dropLastWhile p cs ≠ [] := by
      rw [left]
      exact List.concat_ne_nil d before
    have stays := List.rdropWhile_last_not p cs kept
    have split : dropLastWhile p cs ++ cs.rtakeWhile p = cs := List.rdropWhile_append_rtakeWhile
    simp only [left, List.append_assoc, List.singleton_append] at split
    have ends : (dropLastWhile p cs).getLast kept = d := by
      simp only [left, List.getLast_concat]
    refine ⟨?_, cs.rtakeWhile p, fun c mem => List.mem_rtakeWhile_imp mem, before, split⟩
    rw [← ends]
    exact Bool.eq_false_iff.mpr stays
  · rintro ⟨stays, after, goes, before, rfl⟩
    rw [dropLastWhile_append stays before goes, List.getLast?_concat]

theorem not_isBlank_head?_trimChars {cs : List Char} {c : Char}
    (first : (trimChars cs).head? = some c) : isBlank c = false := by
  have begins : (cs.dropWhile isBlank).head? = some c := by
    obtain ⟨rest, split⟩ := dropLastWhile_isPrefix isBlank (cs.dropWhile isBlank)
    rw [← split, List.head?_append]
    rw [trimChars] at first
    rw [first, Option.some_or]
  have stops := List.head?_dropWhile_not isBlank cs
  rwa [begins] at stops

theorem not_isBlank_getLast?_trimChars {cs : List Char} {c : Char}
    (last : (trimChars cs).getLast? = some c) : isBlank c = false :=
  (getLast?_dropLastWhile_eq_some_iff.mp last).1

theorem dropLastWhile_trimChars (cs : List Char) :
    dropLastWhile isBlank (trimChars cs) = trimChars cs :=
  List.rdropWhile_idempotent isBlank _

/-- A text is trimmed exactly if it neither begins nor ends with a blank. -/
theorem trimChars_eq_self_iff {cs : List Char} :
    trimChars cs = cs ↔
      (∀ c, cs.head? = some c → isBlank c = false) ∧
        ∀ c, cs.getLast? = some c → isBlank c = false := by
  constructor
  · intro same
    rw [← same]
    exact ⟨fun _ => not_isBlank_head?_trimChars, fun _ => not_isBlank_getLast?_trimChars⟩
  · rintro ⟨first, last⟩
    have begins : cs.dropWhile isBlank = cs := by
      cases cs with
      | nil => rfl
      | cons c cs =>
        rw [List.dropWhile_cons_of_neg]
        simp [first c rfl]
    have ends : cs.rdropWhile isBlank = cs := by
      rw [List.rdropWhile_eq_self_iff]
      intro nonempty
      simp [last _ (List.getLast?_eq_some_getLast nonempty)]
    rw [trimChars, begins]
    exact ends

theorem trimChars_trimChars (cs : List Char) : trimChars (trimChars cs) = trimChars cs :=
  trimChars_eq_self_iff.mpr
    ⟨fun _ => not_isBlank_head?_trimChars, fun _ => not_isBlank_getLast?_trimChars⟩

/-- What is taken off both ends may as well be taken off the end before. -/
theorem dropEnds_append {p : Char → Bool} {back : List Char} (goes : ∀ c ∈ back, p c = true)
    (cs : List Char) :
    dropLastWhile p ((cs ++ back).dropWhile p) = dropLastWhile p (cs.dropWhile p) := by
  have gone : back.dropWhile p = [] := List.dropWhile_eq_nil_iff.mpr goes
  rw [List.dropWhile_append]
  by_cases nothing : (cs.dropWhile p).isEmpty
  · rw [if_pos nothing, gone, List.isEmpty_iff.mp nothing]
  · rw [if_neg nothing, dropLastWhile, List.reverse_append, List.dropWhile_append_of_pos]
    · rfl
    · intro c mem
      exact goes c (List.mem_reverse.mp mem)

/-- Blanks at the two ends make no difference. -/
theorem trimChars_between {before after : List Char} (blankBefore : ∀ c ∈ before, isBlank c = true)
    (cs : List Char) (blankAfter : ∀ c ∈ after, isBlank c = true) :
    trimChars (before ++ cs ++ after) = trimChars cs := by
  rw [trimChars, dropEnds_append blankAfter, List.dropWhile_append_of_pos blankBefore, trimChars]

/-- A text without blanks is trimmed. -/
theorem trimChars_of_not_isBlank {cs : List Char} (visible : ∀ c ∈ cs, isBlank c = false) :
    trimChars cs = cs :=
  trimChars_eq_self_iff.mpr
    ⟨fun c first => visible c (List.mem_of_head? first),
      fun c last => visible c (List.mem_of_getLast? last)⟩

end Egress.Text
