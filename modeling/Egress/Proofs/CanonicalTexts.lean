import Egress.Proofs.LowerCase
import Egress.Proofs.RulesOfPayloads
import Egress.Proofs.Trimming

/-!
# The texts of rules

What can be said of the text of every rule in force, and when it begins or ends with a dot. Letter
case has no part in the latter: dots and blanks are where they were before. A dot in front is left
only by a token that has blanks among its first dots, for these blanks are taken off after the dots.
At the end one dot is taken off and then the blanks before it, so that a second dot is left.
-/

namespace Egress

namespace Text

theorem withoutDot_concat (cs : List Char) : withoutDot (cs ++ ['.']) = cs := by
  rw [withoutDot, if_pos List.getLast?_concat, List.dropLast_concat]

theorem withoutDot_of_undotted {cs : List Char} (undotted : cs.getLast? ≠ some '.') :
    withoutDot cs = cs :=
  if_neg undotted

/-- A text ends in a dot, which is taken off, or stays as it is. -/
theorem withoutDot_cases (cs : List Char) :
    cs = withoutDot cs ++ ['.'] ∨ withoutDot cs = cs ∧ cs.getLast? ≠ some '.' := by
  by_cases dotted : cs.getLast? = some '.'
  · left
    obtain ⟨front, rfl⟩ := List.getLast?_eq_some_iff.mp dotted
    rw [withoutDot_concat]
  · exact Or.inr ⟨withoutDot_of_undotted dotted, dotted⟩

theorem head?_of_withoutDot {cs : List Char} {c : Char}
    (first : (withoutDot cs).head? = some c) : cs.head? = some c := by
  rcases withoutDot_cases cs with dotted | ⟨same, _⟩
  · rw [dotted, List.head?_append, first, Option.some_or]
  · rwa [same] at first

theorem withoutDot_append (front : List Char) {cs : List Char} (nonempty : cs ≠ []) :
    withoutDot (front ++ cs) = front ++ withoutDot cs := by
  rcases withoutDot_cases cs with dotted | ⟨same, undotted⟩
  · rw [dotted, ← List.append_assoc, withoutDot_concat, withoutDot_concat]
  · rw [same, withoutDot_of_undotted]
    rwa [List.getLast?_append_of_ne_nil front nonempty]

end Text

namespace Bypass

open Text

/-- What is left of a token, in the letter case it is written in, from its first character on that
is no dot and no blank behind the dots. -/
def innerChars (cs : List Char) : List Char :=
  ((withoutDot (trimChars cs)).dropWhile (· == '.')).dropWhile isBlank

theorem isCaseless_of_eq_dot (c : Char) (dot : (c == '.') = true) : IsCaseless c := by
  rw [beq_iff_eq] at dot
  rw [dot]
  exact isCaseless_dot

theorem canonicalChars_eq (cs : List Char) :
    ∃ before,
      canonicalChars cs = dropLastWhile isBlank (lowercaseAfter before (innerChars cs)) := by
  obtain ⟨before, dots⟩ :=
    dropWhile_lowercaseAfter isCaseless_of_eq_dot [] (withoutDot (trimChars cs))
  obtain ⟨before', blanks⟩ := dropWhile_lowercaseAfter (fun _ => isCaseless_of_isBlank) before
    ((withoutDot (trimChars cs)).dropWhile (· == '.'))
  refine ⟨before', ?_⟩
  rw [innerChars, ← blanks, ← dots]
  rfl

theorem head?_canonicalChars_iff (cs : List Char) :
    (canonicalChars cs).head? = some '.' ↔ (innerChars cs).head? = some '.' := by
  obtain ⟨before, same⟩ := canonicalChars_eq cs
  rw [same, head?_dropLastWhile_eq_some_iff (by decide),
    head?_lowercaseAfter_eq_some_iff isCaseless_dot]

theorem getLast?_canonicalChars_iff (cs : List Char) :
    (canonicalChars cs).getLast? = some '.' ↔
      ∃ blanks, (∀ c ∈ blanks, isBlank c = true) ∧ ('.' :: blanks) <:+ innerChars cs := by
  obtain ⟨before, same⟩ := canonicalChars_eq cs
  have dot : isBlank '.' = false := by decide
  rw [same, getLast?_dropLastWhile_eq_some_iff]
  have caseless :
      ∀ blanks, (∀ c ∈ blanks, isBlank c = true) → ∀ c ∈ '.' :: blanks, IsCaseless c := by
    intro blanks blank c mem
    rcases List.mem_cons.mp mem with rfl | mem
    · exact isCaseless_dot
    · exact isCaseless_of_isBlank (blank c mem)
  constructor
  · rintro ⟨_, blanks, blank, ends⟩
    exact ⟨blanks, blank, (suffix_lowercaseAfter_iff (caseless blanks blank)).mp ends⟩
  · rintro ⟨blanks, blank, ends⟩
    exact ⟨dot, blanks, blank, (suffix_lowercaseAfter_iff (caseless blanks blank)).mpr ends⟩

/-- After trimming, the token begins with dots, blanks and another dot that does not end it. -/
def BrokenFront (token : String) : Prop :=
  ∃ dots blanks rest, trimChars token.toList = dots ++ blanks ++ '.' :: rest ∧
    (∀ c ∈ dots, c = '.') ∧ (∀ c ∈ blanks, isBlank c = true) ∧ dots ≠ [] ∧ blanks ≠ [] ∧ rest ≠ []

/-- After trimming, the token ends in two dots with at most blanks between them, and does not
consist of dots before these. -/
def DoubledEnd (token : String) : Prop :=
  ∃ front blanks, trimChars token.toList = front ++ '.' :: blanks ++ ['.'] ∧
    (∃ c ∈ front, c ≠ '.') ∧ ∀ c ∈ blanks, isBlank c = true

/-- Dots, blanks and the inner characters make up a token without the dot at its end. -/
theorem exists_dots_blanks (cs : List Char) :
    ∃ dots blanks, withoutDot (trimChars cs) = dots ++ blanks ++ innerChars cs ∧
      (∀ c ∈ dots, c = '.') ∧ (∀ c ∈ blanks, isBlank c = true) ∧
      (blanks ++ innerChars cs).head? ≠ some '.' := by
  refine ⟨(withoutDot (trimChars cs)).takeWhile (· == '.'),
    ((withoutDot (trimChars cs)).dropWhile (· == '.')).takeWhile isBlank, ?_, ?_, ?_, ?_⟩
  · rw [List.append_assoc, innerChars, List.takeWhile_append_dropWhile,
      List.takeWhile_append_dropWhile]
  · intro c mem
    have dot := List.mem_takeWhile_imp mem
    exact beq_iff_eq.mp dot
  · intro c mem
    exact List.mem_takeWhile_imp mem
  · intro first
    have stops := List.head?_dropWhile_not (· == '.') (withoutDot (trimChars cs))
    rw [innerChars, List.takeWhile_append_dropWhile] at first
    rw [first] at stops
    cases stops

theorem head?_innerChars_iff (token : String) :
    (innerChars token.toList).head? = some '.' ↔ BrokenFront token := by
  constructor
  · intro first
    obtain ⟨rest, inner⟩ := List.head?_eq_some_iff.mp first
    obtain ⟨dots, blanks, split, dot, blank, stops⟩ := exists_dots_blanks token.toList
    rw [inner] at split stops
    have someBlanks : blanks ≠ [] := by
      rintro rfl
      exact stops rfl
    have someDots : dots ≠ [] := by
      rintro rfl
      obtain ⟨b, bs, rfl⟩ := List.exists_cons_of_ne_nil someBlanks
      have begins : (withoutDot (trimChars token.toList)).head? = some b := by
        rw [split]
        rfl
      have seen := not_isBlank_head?_trimChars (head?_of_withoutDot begins)
      rw [blank b List.mem_cons_self] at seen
      cases seen
    rcases withoutDot_cases (trimChars token.toList) with dotted | ⟨same, undotted⟩
    · refine ⟨dots, blanks, rest ++ ['.'], ?_, dot, blank, someDots, someBlanks,
        List.concat_ne_nil _ _⟩
      rw [dotted, split, List.append_assoc, List.cons_append]
    · rw [same] at split
      refine ⟨dots, blanks, rest, split, dot, blank, someDots, someBlanks, ?_⟩
      rintro rfl
      rw [split] at undotted
      exact undotted List.getLast?_concat
  · rintro ⟨dots, blanks, rest, split, dot, blank, someDots, someBlanks, someRest⟩
    have dotless : (blanks ++ '.' :: withoutDot rest).dropWhile (· == '.') =
        blanks ++ '.' :: withoutDot rest := by
      cases blanks with
      | nil => exact absurd rfl someBlanks
      | cons b bs =>
        rw [List.cons_append, List.dropWhile_cons_of_neg]
        intro isDot
        rw [beq_iff_eq] at isDot
        rw [isDot] at blank
        exact absurd (blank '.' List.mem_cons_self) (by decide)
    have inner : innerChars token.toList = ('.' :: withoutDot rest).dropWhile isBlank := by
      rw [innerChars, split, List.append_assoc, ← List.append_assoc dots, List.append_cons _ '.',
        withoutDot_append _ someRest, List.append_assoc, List.append_assoc, List.singleton_append,
        List.dropWhile_append_of_pos fun c mem => beq_iff_eq.mpr (dot c mem), dotless,
        List.dropWhile_append_of_pos blank]
    rw [inner, List.dropWhile_cons_of_neg (by decide), List.head?_cons]

/-- A dot that stays behind everything that is dropped in front keeps its place. -/
theorem suffix_dropWhile_append {p : Char → Bool} {d : Char} (stays : p d = false)
    (front after : List Char) : (d :: after) <:+ (front ++ d :: after).dropWhile p := by
  rw [Text.dropWhile_append_of_head stays front (List.head?_cons)]
  exact List.suffix_append _ _

theorem dotted_innerChars_iff (token : String) :
    (∃ blanks, (∀ c ∈ blanks, isBlank c = true) ∧ ('.' :: blanks) <:+ innerChars token.toList) ↔
      DoubledEnd token := by
  constructor
  · rintro ⟨after, blank, front, inner⟩
    obtain ⟨dots, blanks, split, dot, blank', stops⟩ := exists_dots_blanks token.toList
    rw [← inner] at split stops
    have other : ∃ c ∈ dots ++ blanks ++ front, c ≠ '.' := by
      rw [← List.append_assoc] at stops
      rw [List.append_assoc]
      cases between : blanks ++ front with
      | nil =>
        rw [between] at stops
        exact absurd rfl stops
      | cons e es =>
        rw [between] at stops
        refine ⟨e, List.mem_append_right dots List.mem_cons_self, ?_⟩
        rintro rfl
        exact stops rfl
    rcases withoutDot_cases (trimChars token.toList) with dotted | ⟨same, undotted⟩
    · refine ⟨dots ++ blanks ++ front, after, ?_, other, blank⟩
      rw [dotted, split]
      simp only [List.append_assoc]
    · rw [same, ← List.append_assoc] at split
      exfalso
      apply undotted
      rw [← dropLastWhile_trimChars, getLast?_dropLastWhile_eq_some_iff]
      exact ⟨by decide, after, blank, dots ++ blanks ++ front, split.symm⟩
  · rintro ⟨front, blanks, split, ⟨c, mem, other⟩, blank⟩
    refine ⟨blanks, blank, ?_⟩
    rw [innerChars, split, withoutDot_concat]
    have left : ¬ (front.dropWhile (· == '.')).isEmpty = true := by
      rw [List.isEmpty_iff, List.dropWhile_eq_nil_iff]
      intro all
      exact other (beq_iff_eq.mp (all c mem))
    rw [List.dropWhile_append, if_neg left]
    exact suffix_dropWhile_append (by decide) _ _

theorem toList_canonical (token : String) :
    (canonical token).toList = canonicalChars token.toList :=
  String.toList_ofList

/-- A canonical form begins with a dot exactly if the dots of the token are broken by blanks. -/
theorem head?_canonical_iff (token : String) :
    (canonical token).toList.head? = some '.' ↔ BrokenFront token := by
  rw [toList_canonical, head?_canonicalChars_iff, head?_innerChars_iff]

/-- A canonical form ends in a dot exactly if the token ends in two of them. -/
theorem getLast?_canonical_iff (token : String) :
    (canonical token).toList.getLast? = some '.' ↔ DoubledEnd token := by
  rw [toList_canonical, getLast?_canonicalChars_iff, dotted_innerChars_iff]

theorem isLower_of_mem_canonicalChars {cs : List Char} {c : Char} (mem : c ∈ canonicalChars cs) :
    IsLower c := by
  have inside := (List.dropWhile_sublist _).subset ((trimChars_sublist _).subset mem)
  exact isLower_of_mem_lowercaseAfter inside

/-- What holds of the text of a rule, whatever it was made from. -/
structure IsRuleText (t : String) : Prop where
  nonempty : t ≠ ""
  lower : lowercase t = t
  first : ∀ c, t.toList.head? = some c → isBlank c = false
  last : ∀ c, t.toList.getLast? = some c → isBlank c = false

theorem isRuleText_canonical {token : String} (nonempty : canonical token ≠ "") :
    IsRuleText (canonical token) where
  nonempty := nonempty
  lower := by
    rw [lowercase_eq_self_iff, toList_canonical]
    exact fun _ => isLower_of_mem_canonicalChars
  first := by
    rw [toList_canonical]
    exact fun _ => not_isBlank_head?_trimChars
  last := by
    rw [toList_canonical]
    exact fun _ => not_isBlank_getLast?_trimChars

theorem isRuleText_of_mem_normalize {input : Input} {t : String} (mem : t ∈ normalize input) :
    IsRuleText t := by
  obtain ⟨nonempty, token, _, rfl⟩ := mem_normalize_iff.mp mem
  exact isRuleText_canonical nonempty

/-- The texts in a snapshot are those of the bypass list of its payload. -/
theorem ruleTexts_hydrate (payload : Json) :
    (Payload.hydrate payload).value.ruleTexts = normalize (Payload.listInput payload) := by
  rw [Config.ruleTexts, Payload.bypass_hydrate, rulesOf_value, List.map_map]
  exact List.map_id _

/-- A text with a dot in front comes out exactly if a token has blanks among its first dots. -/
theorem exists_head?_normalize_iff (input : Input) :
    (∃ t ∈ normalize input, t.toList.head? = some '.') ↔
      ∃ token ∈ input.tokens, BrokenFront token := by
  constructor
  · rintro ⟨t, mem, dotted⟩
    obtain ⟨_, token, given, rfl⟩ := mem_normalize_iff.mp mem
    rcases List.mem_append.mp given with builtIn | given
    · have undotted : ∀ t ∈ defaults, t.toList.head? ≠ some '.' := by
        decide
      rw [canonical_default token builtIn] at dotted
      exact absurd dotted (undotted token builtIn)
    · exact ⟨token, given, (head?_canonical_iff token).mp dotted⟩
  · rintro ⟨token, given, broken⟩
    have dotted := (head?_canonical_iff token).mpr broken
    refine ⟨canonical token, mem_normalize_iff.mpr ⟨?_, token, List.mem_append_right _ given, rfl⟩,
      dotted⟩
    intro empty
    rw [empty] at dotted
    cases dotted

/-- Every rule has a text in lower case that is neither empty nor surrounded by blanks. None begins
with a dot exactly if no token has blanks among its first dots. The rules of a snapshot are of this
kind, too. -/
theorem ruleTexts_canonical (input : Input) (payload : Json) :
    (∀ t ∈ normalize input, IsRuleText t) ∧
      ((∀ t ∈ normalize input, t.toList.head? ≠ some '.') ↔
        ∀ token ∈ input.tokens, ¬ BrokenFront token) ∧
      (Payload.hydrate payload).value.ruleTexts = normalize (Payload.listInput payload) := by
  refine ⟨fun t => isRuleText_of_mem_normalize, ?_, ruleTexts_hydrate payload⟩
  have dotted := not_congr (exists_head?_normalize_iff input)
  simpa only [not_exists, not_and] using dotted

/-- A rule in force that begins with a dot. -/
theorem normalize_broken_front :
    normalize (.list [". .foo"]) = defaults ++ [".foo"] ∧ ".foo".toList.head? = some '.' := by
  decide +kernel

end Bypass

end Egress
