import Mathlib.Algebra.Order.BigOperators.Group.List
import Mathlib.Algebra.Order.Group.Nat
import Mathlib.Data.List.Perm.Subperm
import Egress.Proofs.CanonicalTexts

/-!
# Rules that are normalized again

Which texts and which lists are left as they are. A text is its own canonical form exactly if it is
in lower case and has neither a blank nor a dot at its ends. A list of such texts comes back as it
was given exactly if it begins with the built-in rules, has no text twice and no empty one; no other
list comes back. That it holds such texts only is a count: if the list comes back unchanged, then
making the texts canonical only permutes them, and as it shortens each text that it does not leave
alone, it leaves all of them alone.

The rules in force, given back as a list, are such a list exactly if none of them begins or ends
with a dot.
-/

namespace Egress

namespace Bypass

open Text

section Distinct

variable {seen texts : List String}

theorem distinctFrom_congr {seen' : List String} (same : ∀ t, t ∈ seen ↔ t ∈ seen') :
    distinctFrom seen texts = distinctFrom seen' texts := by
  induction texts generalizing seen seen' with
  | nil => rfl
  | cons t texts ih =>
    have contained : seen.contains t = seen'.contains t := by
      rw [Bool.eq_iff_iff, List.contains_iff_mem, List.contains_iff_mem, same]
    have extended : ∀ s, s ∈ t :: seen ↔ s ∈ t :: seen' := by
      intro s
      rw [List.mem_cons, List.mem_cons, same]
    rw [distinctFrom, distinctFrom, contained, ih same, ih extended]

theorem distinctFrom_append (seen xs ys : List String) :
    distinctFrom seen (xs ++ ys) = distinctFrom seen xs ++ distinctFrom (xs ++ seen) ys := by
  induction xs generalizing seen with
  | nil => rfl
  | cons x xs ih =>
    rw [List.cons_append, distinctFrom, distinctFrom]
    split
    · next old =>
      rw [List.contains_iff_mem] at old
      rw [ih]
      congr 1
      apply distinctFrom_congr
      intro t
      simp only [List.cons_append, List.mem_cons, List.mem_append]
      constructor
      · exact Or.inr
      · rintro (rfl | mem)
        · exact Or.inr old
        · exact mem
    · rw [ih, List.cons_append]
      congr 2
      apply distinctFrom_congr
      intro t
      simp only [List.cons_append, List.mem_cons, List.mem_append, or_left_comm]

theorem distinctFrom_of_old (old : ∀ t ∈ texts, t ∈ seen) : distinctFrom seen texts = [] := by
  rw [List.eq_nil_iff_forall_not_mem]
  intro t mem
  obtain ⟨inside, new⟩ := mem_distinctFrom_iff.mp mem
  exact new (old t inside)

theorem distinctFrom_of_nodup (nodup : texts.Nodup) (new : ∀ t ∈ texts, t ∉ seen) :
    distinctFrom seen texts = texts := by
  induction texts generalizing seen with
  | nil => rfl
  | cons t texts ih =>
    obtain ⟨once, nodup⟩ := List.nodup_cons.mp nodup
    have fresh : ¬ seen.contains t = true := by
      rw [List.contains_iff_mem]
      exact new t List.mem_cons_self
    rw [distinctFrom, if_neg fresh, ih nodup]
    intro s mem
    rw [List.mem_cons, not_or]
    refine ⟨?_, new s (List.mem_cons_of_mem t mem)⟩
    rintro rfl
    exact once mem

theorem nodup_distinctFrom (seen texts : List String) : (distinctFrom seen texts).Nodup := by
  induction texts generalizing seen with
  | nil => exact List.nodup_nil
  | cons t texts ih =>
    rw [distinctFrom]
    split
    · exact ih seen
    · refine List.nodup_cons.mpr ⟨?_, ih _⟩
      intro mem
      exact (mem_distinctFrom_iff.mp mem).2 List.mem_cons_self

end Distinct

/-- Texts in canonical form, none of them empty, are what is compared with each other. -/
theorem filter_map_canonical {texts : List String} (nonempty : "" ∉ texts)
    (fixed : ∀ t ∈ texts, canonical t = t) :
    (texts.map canonical).filter (fun t => !t.isEmpty) = texts := by
  rw [List.map_congr_left fixed, List.map_id', List.filter_eq_self]
  intro t mem
  have some : t ≠ "" := by
    rintro rfl
    exact nonempty mem
  simpa using some

theorem filter_map_canonical_defaults :
    (defaults.map canonical).filter (fun t => !t.isEmpty) = defaults :=
  filter_map_canonical (by decide) canonical_default

/-- The built-in rules come first, and of the given ones those that are not among them. -/
theorem normalize_eq (input : Input) :
    normalize input =
      defaults ++ distinctFrom defaults
        ((input.tokens.map canonical).filter (fun t => !t.isEmpty)) := by
  have once : distinctFrom [] defaults = defaults := by
    decide
  rw [normalize, List.map_append, List.filter_append, filter_map_canonical_defaults,
    distinctFrom_append, once, List.append_nil]

theorem nodup_normalize (input : Input) : (normalize input).Nodup :=
  nodup_distinctFrom [] _

theorem defaults_isPrefix_normalize (input : Input) : defaults <+: normalize input := by
  rw [normalize_eq]
  exact List.prefix_append _ _

/-- The built-in rules may stand in front of a list or be left out. -/
theorem normalize_defaults_append (texts : List String) :
    normalize (.list (defaults ++ texts)) = normalize (.list texts) := by
  have known : ∀ t, t ∈ defaults ++ defaults ↔ t ∈ defaults := fun t => by
    rw [List.mem_append, or_self]
  rw [normalize_eq, normalize_eq, Input.tokens, Input.tokens, List.map_append, List.filter_append,
    filter_map_canonical_defaults, distinctFrom_append, distinctFrom_of_old fun t mem => mem,
    List.nil_append, distinctFrom_congr known]

theorem withoutDot_sublist (cs : List Char) : (withoutDot cs).Sublist cs := by
  unfold withoutDot
  split
  · exact List.dropLast_sublist cs
  · exact List.Sublist.refl cs

/-- Of a text in lower case, the characters between its dots and blanks are left. -/
theorem canonicalChars_of_lower {cs : List Char} (lower : ∀ c ∈ cs, IsLower c) :
    canonicalChars cs = trimChars ((withoutDot (trimChars cs)).dropWhile (· == '.')) := by
  have inside := (withoutDot_sublist (trimChars cs)).trans (trimChars_sublist cs)
  rw [canonicalChars, normalChars,
    lowercaseChars_eq_self_iff.mpr fun c mem => lower c (inside.subset mem)]

theorem canonicalChars_sublist {cs : List Char} (lower : ∀ c ∈ cs, IsLower c) :
    (canonicalChars cs).Sublist cs := by
  rw [canonicalChars_of_lower lower]
  exact (trimChars_sublist _).trans ((List.dropWhile_sublist _).trans
    ((withoutDot_sublist _).trans (trimChars_sublist cs)))

/-- A character without letter case does not come up in a rule if it was not in the token. -/
theorem mem_of_mem_canonical {d : Char} (caseless : IsCaseless d) {token : String}
    (mem : d ∈ (canonical token).toList) : d ∈ token.toList := by
  rw [toList_canonical, canonicalChars] at mem
  have inName := ((trimChars_sublist _).trans (List.dropWhile_sublist _)).subset mem
  have inside := mem_of_mem_lowercaseAfter caseless inName
  exact ((withoutDot_sublist _).trans (trimChars_sublist _)).subset inside

/-- A text is in canonical form exactly if it is in lower case and there is nothing to take off. -/
theorem canonicalChars_eq_self_iff {cs : List Char} :
    canonicalChars cs = cs ↔
      (∀ c ∈ cs, IsLower c) ∧ trimChars cs = cs ∧ cs.head? ≠ some '.' ∧ cs.getLast? ≠ some '.' := by
  constructor
  · intro same
    have lower : ∀ c ∈ cs, IsLower c := by
      intro c mem
      rw [← same] at mem
      exact isLower_of_mem_canonicalChars mem
    have trimmed : trimChars cs = cs := by
      rw [← same, canonicalChars, trimChars_trimChars]
    rw [canonicalChars_of_lower lower, trimmed] at same
    -- Each step takes a part of what it is given, and the last result is all of it.
    have dotless : (withoutDot cs).dropWhile (· == '.') = cs := by
      apply ((List.dropWhile_sublist _).trans (withoutDot_sublist cs)).antisymm
      have part := trimChars_sublist ((withoutDot cs).dropWhile (· == '.'))
      rwa [same] at part
    have undotted : withoutDot cs = cs := by
      apply (withoutDot_sublist cs).antisymm
      have part := List.dropWhile_sublist (· == '.') (l := withoutDot cs)
      rwa [dotless] at part
    refine ⟨lower, trimmed, ?_, ?_⟩
    · intro first
      have stops := List.head?_dropWhile_not (· == '.') (withoutDot cs)
      rw [dotless, first] at stops
      cases stops
    · intro last
      obtain ⟨front, rfl⟩ := List.getLast?_eq_some_iff.mp last
      rw [withoutDot_concat] at undotted
      exact absurd (congrArg List.length undotted) (by simp)
  · rintro ⟨lower, trimmed, first, last⟩
    rw [canonicalChars_of_lower lower, trimmed, withoutDot_of_undotted last]
    cases cs with
    | nil => rfl
    | cons c cs =>
      rw [List.dropWhile_cons_of_neg, trimmed]
      intro dot
      rw [beq_iff_eq] at dot
      rw [dot] at first
      exact first rfl

theorem IsRuleText.isLower {t : String} (rule : IsRuleText t) : ∀ c ∈ t.toList, IsLower c :=
  lowercase_eq_self_iff.mp rule.lower

/-- What holds of a text that is its own canonical form. -/
structure IsStable (t : String) : Prop where
  lower : lowercase t = t
  first : ∀ c, t.toList.head? = some c → isBlank c = false
  last : ∀ c, t.toList.getLast? = some c → isBlank c = false
  undottedFirst : t.toList.head? ≠ some '.'
  undottedLast : t.toList.getLast? ≠ some '.'

theorem canonical_eq_self_iff_isStable {t : String} : canonical t = t ↔ IsStable t := by
  rw [← String.toList_inj, toList_canonical, canonicalChars_eq_self_iff, ← lowercase_eq_self_iff,
    trimChars_eq_self_iff]
  constructor
  · rintro ⟨lower, ⟨first, last⟩, undottedFirst, undottedLast⟩
    exact ⟨lower, first, last, undottedFirst, undottedLast⟩
  · rintro ⟨lower, first, last, undottedFirst, undottedLast⟩
    exact ⟨lower, ⟨first, last⟩, undottedFirst, undottedLast⟩

/-- A rule has its text in canonical form exactly if it neither begins nor ends with a dot. -/
theorem IsRuleText.canonical_eq_self_iff {t : String} (rule : IsRuleText t) :
    canonical t = t ↔ t.toList.head? ≠ some '.' ∧ t.toList.getLast? ≠ some '.' := by
  rw [canonical_eq_self_iff_isStable]
  constructor
  · exact fun stable => ⟨stable.undottedFirst, stable.undottedLast⟩
  · rintro ⟨undottedFirst, undottedLast⟩
    exact ⟨rule.lower, rule.first, rule.last, undottedFirst, undottedLast⟩

/-- The canonical form of a token is in canonical form exactly if the token has no blanks among its
first dots and no second dot at its end. -/
theorem canonical_canonical_iff (token : String) :
    canonical (canonical token) = canonical token ↔ ¬ BrokenFront token ∧ ¬ DoubledEnd token := by
  rw [← head?_canonical_iff, ← getLast?_canonical_iff]
  by_cases empty : canonical token = ""
  · rw [empty]
    exact iff_of_true (by decide) ⟨by decide, by decide⟩
  · exact (isRuleText_canonical empty).canonical_eq_self_iff

theorem IsRuleText.length_canonical_lt {t : String} (rule : IsRuleText t)
    (changed : canonical t ≠ t) : (canonical t).toList.length < t.toList.length := by
  have part := canonicalChars_sublist rule.isLower
  rw [← toList_canonical] at part
  apply lt_of_le_of_ne part.length_le
  intro equal
  exact changed (String.toList_inj.mp (part.eq_of_length equal))

/-- A map that permutes a list and shrinks all that it changes changes nothing. -/
theorem fixed_of_perm_map {α : Type} {l : List α} {f : α → α} (size : α → Nat)
    (permuted : l.Perm (l.map f)) (shrinks : ∀ a ∈ l, f a ≠ a → size (f a) < size a) :
    ∀ a ∈ l, f a = a := by
  intro a mem
  by_contra changed
  have less : (l.map fun b => size (f b)).sum < (l.map size).sum := by
    apply List.sum_lt_sum _ _ _ ⟨a, mem, shrinks a mem changed⟩
    intro b mem
    by_cases same : f b = b
    · rw [same]
    · exact (shrinks b mem same).le
  have equal := (permuted.map size).sum_eq
  rw [List.map_map] at equal
  exact less.ne' equal

/-- If a list of rules comes back as it was given, all of its texts are in canonical form. -/
theorem canonical_of_normalize_eq {texts : List String} (same : normalize (.list texts) = texts) :
    ∀ t ∈ texts, canonical t = t := by
  have rule : ∀ t ∈ texts, IsRuleText t := by
    intro t mem
    rw [← same] at mem
    exact isRuleText_of_mem_normalize mem
  have nodup : texts.Nodup := by
    rw [← same]
    exact nodup_normalize _
  have covered : texts ⊆ texts.map canonical := by
    intro t mem
    rw [← same] at mem
    obtain ⟨_, token, given, rfl⟩ := mem_normalize_iff.mp mem
    apply List.mem_map_of_mem
    rcases List.mem_append.mp given with builtIn | given
    · rw [← same]
      exact (defaults_isPrefix_normalize _).subset builtIn
    · exact given
  have permuted : texts.Perm (texts.map canonical) :=
    (nodup.subperm covered).perm_of_length_le (by rw [List.length_map])
  exact fixed_of_perm_map (fun t => t.toList.length) permuted fun t mem =>
    (rule t mem).length_canonical_lt

/-- The built-in rules and, behind them, distinct texts in canonical form come back as they were
given. -/
theorem normalize_of_fixed {texts : List String} (begins : defaults <+: texts) (nodup : texts.Nodup)
    (nonempty : "" ∉ texts) (fixed : ∀ t ∈ texts, canonical t = t) :
    normalize (.list texts) = texts := by
  obtain ⟨own, rfl⟩ := begins
  obtain ⟨_, once, apart⟩ := List.nodup_append.mp nodup
  have new : ∀ t ∈ own, t ∉ defaults := fun t mem builtIn => apart t builtIn t mem rfl
  have nonemptyOwn : "" ∉ own := fun mem => nonempty (List.mem_append_right _ mem)
  have fixedOwn : ∀ t ∈ own, canonical t = t := fun t mem => fixed t (List.mem_append_right _ mem)
  rw [normalize_defaults_append, normalize_eq, Input.tokens,
    filter_map_canonical nonemptyOwn fixedOwn, distinctFrom_of_nodup once new]

theorem empty_not_mem_normalize (input : Input) : "" ∉ normalize input := fun mem =>
  (isRuleText_of_mem_normalize mem).nonempty rfl

/-- Rules in canonical form come back as they were given. -/
theorem normalize_of_canonical {input : Input} (fixed : ∀ t ∈ normalize input, canonical t = t) :
    normalize (.list (normalize input)) = normalize input :=
  normalize_of_fixed (defaults_isPrefix_normalize input) (nodup_normalize input)
    (empty_not_mem_normalize input) fixed

/-- A text is its own canonical form exactly if it is in lower case and has neither a blank nor a
dot at its ends. A list comes back as it was given exactly if it begins with the built-in rules, has
no text twice, no empty text, and none that is not its own canonical form. -/
theorem stable_texts_and_lists :
    (∀ t : String, canonical t = t ↔ IsStable t) ∧
      ∀ texts : List String, normalize (.list texts) = texts ↔
        defaults <+: texts ∧ texts.Nodup ∧ "" ∉ texts ∧ ∀ t ∈ texts, canonical t = t := by
  refine ⟨fun t => canonical_eq_self_iff_isStable, fun texts => ?_⟩
  constructor
  · intro same
    have begins := defaults_isPrefix_normalize (.list texts)
    have nodup := nodup_normalize (.list texts)
    have nonempty := empty_not_mem_normalize (.list texts)
    rw [same] at begins nodup nonempty
    exact ⟨begins, nodup, nonempty, canonical_of_normalize_eq same⟩
  · rintro ⟨begins, nodup, nonempty, fixed⟩
    exact normalize_of_fixed begins nodup nonempty fixed

/-- Only the ends of a text and its letter case count: dots, blanks and `ς` inside of it stay. -/
example :
    normalize (.list (defaults ++ ["aςb..c d", "*.σ"])) = defaults ++ ["aςb..c d", "*.σ"] := by
  decide +kernel

/-- The rules in force are the same when they are normalized again, exactly if none of them begins
or ends with a dot. -/
theorem normalize_normalize_iff (input : Input) :
    normalize (.list (normalize input)) = normalize input ↔
      ∀ t ∈ normalize input, t.toList.head? ≠ some '.' ∧ t.toList.getLast? ≠ some '.' := by
  constructor
  · intro same t mem
    have rule := isRuleText_of_mem_normalize mem
    exact rule.canonical_eq_self_iff.mp (canonical_of_normalize_eq same t mem)
  · intro stable
    apply normalize_of_canonical
    intro t mem
    exact (isRuleText_of_mem_normalize mem).canonical_eq_self_iff.mpr (stable t mem)

/-- The rules in force are the same when they are normalized again, exactly if no token has blanks
among its first dots or, blanks aside, a second dot at its end. -/
theorem normalize_again_iff (input : Input) :
    normalize (.list (normalize input)) = normalize input ↔
      ∀ token ∈ input.tokens, ¬ BrokenFront token ∧ ¬ DoubledEnd token := by
  constructor
  · intro same token given
    rw [← canonical_canonical_iff]
    by_cases empty : canonical token = ""
    · rw [empty]
      decide
    · apply canonical_of_normalize_eq same
      exact mem_normalize_iff.mpr ⟨empty, token, List.mem_append_right _ given, rfl⟩
  · intro clean
    apply normalize_of_canonical
    intro t mem
    obtain ⟨_, token, given, rfl⟩ := mem_normalize_iff.mp mem
    rcases List.mem_append.mp given with builtIn | given
    · rw [canonical_default token builtIn, canonical_default token builtIn]
    · exact (canonical_canonical_iff token).mpr (clean token given)

/-- Neither token ends in two dots in a row, and each of them gives other rules the second time. -/
theorem normalize_again_differs :
    (∀ token ∈ [". .foo", "foo. ."], ¬ ['.', '.'] <:+ trimChars token.toList) ∧
      normalize (.list (normalize (.list [". .foo"]))) ≠ normalize (.list [". .foo"]) ∧
      normalize (.list (normalize (.list ["foo. ."]))) ≠ normalize (.list ["foo. ."]) := by
  decide +kernel

end Bypass

end Egress
