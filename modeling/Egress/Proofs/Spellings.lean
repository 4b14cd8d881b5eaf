import Egress.Proofs.EditedRules
import Egress.Proofs.VisibleTexts

/-!
# Spellings of one rule

People write one rule in many ways: with dots in front to mean the subdomains too, with a dot at the
end to mean that the name is complete, in any letters and with blanks anywhere around. All of these
give one rule, if its text is in lower case, has no blanks around it and neither begins nor ends
with a dot.

The way is through the inner characters of a token: those of a spelling are the text itself in other
letters, and blanks behind it. That the letters may differ is no matter of the place they stand at,
for a text in lower case has no letter whose form depends on it.
-/

namespace Egress

namespace Text

theorem ascii_of_isUpper {c : Char} (upper : c.isUpper = true) : c.toNat < 128 := by
  apply ascii_of_isAlphanum
  rw [Char.isAlphanum, Char.isAlpha, upper, Bool.true_or, Bool.true_or]

theorem not_isUpper_of_isLower {c : Char} (lower : IsLower c) : ¬ c.isUpper = true := by
  intro upper
  exact forall_ascii (p := fun c => c.isUpper = true → ¬ lowerSimple c = c) (by decide +kernel) c
    (ascii_of_isUpper upper) upper lower.1

/-- What differs from a lower-case character in ASCII letter case only has it as its form. -/
theorem lowerForm_of_toLower {c d : Char} (lower : IsLower c) (letter : d.toLower = c.toLower)
    (before after : List Char) : lowerForm before d after = [c] := by
  rw [Char.toLower_eq_of_not_isUpper (not_isUpper_of_isLower lower)] at letter
  by_cases upper : d.isUpper = true
  · have plain : d ≠ 'Σ' ∧ lowerChar d = [d.toLower] :=
      forall_ascii (p := fun d => d ≠ 'Σ' ∧ lowerChar d = [d.toLower]) (by decide +kernel) d
        (ascii_of_isUpper upper)
    rw [lowerForm, if_neg plain.1, plain.2, letter]
  · rw [Char.toLower_eq_of_not_isUpper upper] at letter
    rw [letter, lowerForm_of_isLower lower]

/-- Letters that are written large in a text in lower case come out small, wherever the text
stands. -/
theorem lowercaseAfter_of_toLower {cs ds : List Char} (lower : ∀ c ∈ cs, IsLower c)
    (letters : ds.map Char.toLower = cs.map Char.toLower) (before : List Char) :
    lowercaseAfter before ds = cs := by
  induction ds generalizing cs before with
  | nil =>
    rw [List.map_nil, eq_comm, List.map_eq_nil_iff] at letters
    rw [letters]
    rfl
  | cons d ds ih =>
    obtain ⟨c, cs', rfl, letter, letters⟩ := List.map_eq_cons_iff.mp letters.symm
    obtain ⟨here, lower⟩ := List.forall_mem_cons.mp lower
    rw [lowercaseAfter_cons, lowerForm_of_toLower here letter.symm, ih lower letters.symm]
    rfl

/-- What has no letter case stands for itself alone, in small letters as in large ones. -/
theorem eq_of_toLower_of_caseless {c d : Char} (lower : IsLower c) (letter : d.toLower = c.toLower)
    (caseless : IsCaseless d) : d = c := by
  have form := lowerForm_of_toLower lower letter [] []
  rw [lowerForm_of_caseless caseless] at form
  exact (List.cons.inj form).1

end Text

namespace Bypass

open Text

/-- A text is written with dots and blanks in front, in any ASCII letters, perhaps with a dot at the
end, and with blanks around all of this. -/
inductive Spells (t : String) : String → Prop where
  | intro {w₁ dots w₂ t' w₃ stop w₄ : String}
      (blank : ∀ w ∈ [w₁, w₂, w₃, w₄], ∀ c ∈ w.toList, isBlank c = true)
      (dotted : ∀ c ∈ dots.toList, c = '.')
      (letters : t'.toList.map Char.toLower = t.toList.map Char.toLower)
      (stopped : stop = "" ∨ stop = ".") :
      Spells t (w₁ ++ dots ++ w₂ ++ t' ++ w₃ ++ stop ++ w₄)

/-- Trimming and taking off the last dot leave a core that stands between dots and blanks, with some
of the blanks. -/
theorem withoutDot_trimChars_around {core blanks stop : List Char} {d e : Char} (front : List Char)
    (first : core.head? = some d) (last : core.getLast? = some e) (begins : isBlank d = false)
    (ends : isBlank e = false) (undotted : e ≠ '.') (blank : ∀ c ∈ blanks, isBlank c = true)
    (stopped : stop = [] ∨ stop = ['.']) :
    ∃ rear, (∀ c ∈ rear, isBlank c = true) ∧
      withoutDot (trimChars (front ++ core ++ blanks ++ stop)) =
        front.dropWhile isBlank ++ (core ++ rear) := by
  have begun : (core ++ (blanks ++ stop)).head? = some d := by
    rw [List.head?_append, first, Option.some_or]
  have dropped : (front ++ core ++ blanks ++ stop).dropWhile isBlank =
      front.dropWhile isBlank ++ (core ++ (blanks ++ stop)) := by
    rw [List.append_assoc, List.append_assoc, dropWhile_append_of_head begins front begun]
  obtain ⟨inner, rfl⟩ := List.getLast?_eq_some_iff.mp last
  rw [trimChars, dropped]
  rcases stopped with rfl | rfl
  · refine ⟨[], List.forall_mem_nil _, ?_⟩
    have split : front.dropWhile isBlank ++ (inner ++ [e] ++ (blanks ++ [])) =
        front.dropWhile isBlank ++ inner ++ e :: blanks := by simp
    have open_end : (front.dropWhile isBlank ++ inner ++ [e]).getLast? ≠ some '.' := by
      rw [List.getLast?_concat, ne_eq, Option.some_inj]
      exact undotted
    rw [split, dropLastWhile_append ends _ blank, withoutDot_of_undotted open_end, List.append_nil,
      List.append_assoc]
  · refine ⟨blanks, blank, ?_⟩
    have split : front.dropWhile isBlank ++ (inner ++ [e] ++ (blanks ++ ['.'])) =
        front.dropWhile isBlank ++ (inner ++ [e] ++ blanks) ++ '.' :: [] := by simp
    have dot : isBlank '.' = false := by decide
    rw [split, dropLastWhile_append dot _ (List.forall_mem_nil _), withoutDot_concat]

/-- Nothing is left of dots and blanks behind them. -/
theorem dropWhile_dots_blanks {dots blanks : List Char} (dotted : ∀ c ∈ dots, c = '.')
    (blank : ∀ c ∈ blanks, isBlank c = true) :
    (((dots ++ blanks).dropWhile isBlank).dropWhile (· == '.')).dropWhile isBlank = [] := by
  have gone : (dots ++ blanks).dropWhile (· == '.') = blanks.dropWhile (· == '.') :=
    List.dropWhile_append_of_pos fun c mem => beq_iff_eq.mpr (dotted c mem)
  cases dots with
  | nil => rw [List.nil_append, List.dropWhile_eq_nil_iff.mpr blank]; rfl
  | cons d ds =>
    have stays : ¬ isBlank d = true := by
      rw [dotted d List.mem_cons_self]
      decide
    rw [List.cons_append, List.dropWhile_cons_of_neg stays, ← List.cons_append, gone,
      List.dropWhile_eq_nil_iff]
    exact fun c mem => blank c ((List.dropWhile_sublist _).subset mem)

/-- The inner characters of a decorated core are the core and some of the blanks behind it. -/
theorem innerChars_around {before dots inner core rear stop after : List Char} {d e : Char}
    (first : core.head? = some d) (last : core.getLast? = some e)
    (begins : isBlank d = false ∧ d ≠ '.') (ends : isBlank e = false ∧ e ≠ '.')
    (dotted : ∀ c ∈ dots, c = '.') (stopped : stop = [] ∨ stop = ['.'])
    (blank : ∀ w ∈ [before, inner, rear, after], ∀ c ∈ w, isBlank c = true) :
    ∃ rest, (∀ c ∈ rest, isBlank c = true) ∧
      innerChars (before ++ dots ++ inner ++ core ++ rear ++ stop ++ after) = core ++ rest := by
  simp only [List.forall_mem_cons] at blank
  obtain ⟨outer, inside, behind, outer', -⟩ := blank
  obtain ⟨rest, blankRest, left⟩ := withoutDot_trimChars_around (dots ++ inner) first last begins.1
    ends.1 ends.2 behind stopped
  have trimmed : trimChars (before ++ dots ++ inner ++ core ++ rear ++ stop ++ after) =
      trimChars (dots ++ inner ++ core ++ rear ++ stop) := by
    have around := trimChars_between outer (dots ++ inner ++ core ++ rear ++ stop) outer'
    simpa only [List.append_assoc] using around
  have begun : (core ++ rest).head? = some d := by
    rw [List.head?_append, first, Option.some_or]
  have dotless := dropWhile_append_of_head (p := (· == '.')) (beq_eq_false_iff_ne.mpr begins.2)
    ((dots ++ inner).dropWhile isBlank) begun
  refine ⟨rest, blankRest, ?_⟩
  rw [innerChars, trimmed, left, dotless, dropWhile_append_of_head begins.1 _ begun,
    dropWhile_dots_blanks dotted inside, List.nil_append]

/-- An end of a text in other letters is a dot or a blank only if the end of the text is. -/
theorem exists_end_of_toLower {found given : Option Char} {c : Char}
    (letters : found.map Char.toLower = given.map Char.toLower) (ends : given = some c)
    (lower : IsLower c) (visible : isBlank c = false) (undotted : c ≠ '.') :
    ∃ d, found = some d ∧ isBlank d = false ∧ d ≠ '.' := by
  rw [ends, Option.map_some, Option.map_eq_some_iff] at letters
  obtain ⟨d, here, letter⟩ := letters
  refine ⟨d, here, ?_, ?_⟩
  · rw [Bool.eq_false_iff]
    intro blank
    rw [← eq_of_toLower_of_caseless lower letter (isCaseless_of_isBlank blank), blank] at visible
    cases visible
  · rintro rfl
    exact undotted (eq_of_toLower_of_caseless lower letter isCaseless_dot).symm

/-- A rule in other letters neither begins nor ends with a dot or a blank if the rule does not. -/
theorem exists_ends_of_toLower {t : String} (rule : IsRuleText t)
    (first : t.toList.head? ≠ some '.') (last : t.toList.getLast? ≠ some '.') {cs : List Char}
    (letters : cs.map Char.toLower = t.toList.map Char.toLower) :
    (∃ d, cs.head? = some d ∧ isBlank d = false ∧ d ≠ '.') ∧
      ∃ e, cs.getLast? = some e ∧ isBlank e = false ∧ e ≠ '.' := by
  have nonempty : t.toList ≠ [] := mt String.toList_eq_nil_iff.mp rule.nonempty
  constructor
  · have begins := List.head?_eq_some_head nonempty
    have heads := congrArg List.head? letters
    rw [List.head?_map, List.head?_map] at heads
    apply exists_end_of_toLower heads begins
    · exact rule.isLower _ (List.head_mem nonempty)
    · exact rule.first _ begins
    · rintro dot
      exact first (dot ▸ begins)
  · have ends := List.getLast?_eq_some_getLast nonempty
    have lasts := congrArg List.getLast? letters
    rw [List.getLast?_map, List.getLast?_map] at lasts
    apply exists_end_of_toLower lasts ends
    · exact rule.isLower _ (List.getLast_mem nonempty)
    · exact rule.last _ ends
    · rintro dot
      exact last (dot ▸ ends)

/-- Blanks behind the text of a rule are all that is taken off its end. -/
theorem dropLastWhile_rule_append {t : String} (rule : IsRuleText t) {blanks : List Char}
    (blank : ∀ c ∈ blanks, isBlank c = true) :
    dropLastWhile isBlank (t.toList ++ blanks) = t.toList := by
  have nonempty : t.toList ≠ [] := mt String.toList_eq_nil_iff.mp rule.nonempty
  have ends := List.getLast?_eq_some_getLast nonempty
  obtain ⟨front, split⟩ := List.getLast?_eq_some_iff.mp ends
  rw [split, List.append_assoc, List.singleton_append,
    dropLastWhile_append (rule.last _ ends) front blank]

/-- Every spelling of a rule gives its text. -/
theorem canonical_of_spells {t s : String} (rule : IsRuleText t)
    (first : t.toList.head? ≠ some '.') (last : t.toList.getLast? ≠ some '.')
    (spells : Spells t s) : canonical s = t := by
  obtain @⟨w₁, dots, w₂, t', w₃, stop, w₄, blank, dotted, letters, stopped⟩ := spells
  obtain ⟨⟨d, begins, first'⟩, e, ends, last'⟩ := exists_ends_of_toLower rule first last letters
  have stop' : stop.toList = [] ∨ stop.toList = ['.'] := by
    rcases stopped with rfl | rfl
    · exact Or.inl rfl
    · exact Or.inr rfl
  obtain ⟨rest, blankRest, inner⟩ := innerChars_around begins ends first' last' dotted stop'
    (List.forall_mem_map (f := String.toList) (l := [w₁, w₂, w₃, w₄]) |>.mpr blank)
  obtain ⟨before, form⟩ := canonicalChars_eq
    (w₁ ++ dots ++ w₂ ++ t' ++ w₃ ++ stop ++ w₄).toList
  have lower : ∀ c ∈ t.toList ++ rest, IsLower c := by
    rw [List.forall_mem_append]
    exact ⟨rule.isLower, fun c mem => (isCaseless_of_isBlank (blankRest c mem)).isLower⟩
  have letters' : (t'.toList ++ rest).map Char.toLower = (t.toList ++ rest).map Char.toLower := by
    rw [List.map_append, letters, List.map_append]
  rw [← String.toList_inj, toList_canonical, form]
  simp only [String.toList_append]
  rw [inner, lowercaseAfter_of_toLower lower letters', dropLastWhile_rule_append rule blankRest]

/-- Of a text that is repeated only the first occurrence counts. -/
theorem distinctFrom_replicate_append (seen : List String) (t : String) (n : Nat)
    (rest : List String) :
    distinctFrom seen (List.replicate n t ++ t :: rest) = distinctFrom seen (t :: rest) := by
  induction n generalizing seen with
  | zero => rfl
  | succ n ih =>
    rw [List.replicate_succ, List.cons_append, distinctFrom, ih, ih, distinctFrom]
    by_cases old : seen.contains t = true
    · rw [if_pos old, if_pos old]
    · have known : (t :: seen).contains t = true := by simp
      rw [if_neg old, if_neg old, distinctFrom, if_pos known]

/-- Tokens that all give one text give it as often as they are many. -/
theorem formsOf_eq_replicate {t : String} (nonempty : t ≠ "") {tokens : List String}
    (forms : ∀ s ∈ tokens, canonical s = t) : formsOf tokens = List.replicate tokens.length t := by
  rw [formsOf, List.map_eq_replicate_iff.mpr forms, List.filter_eq_self]
  intro s mem
  rw [List.eq_of_mem_replicate mem]
  simpa using nonempty

/-- Tokens that all give one text do together what this text does alone. -/
theorem normalize_collapse {t : String} (nonempty : t ≠ "") (fixed : canonical t = t)
    {tokens : List String} (some : tokens ≠ []) (forms : ∀ s ∈ tokens, canonical s = t)
    (before after : List String) :
    normalize (.list (before ++ tokens ++ after)) = normalize (.list (before ++ [t] ++ after)) := by
  obtain ⟨n, many⟩ := Nat.exists_eq_add_one_of_ne_zero (mt List.length_eq_zero_iff.mp some)
  have given : formsOf tokens = List.replicate n t ++ [t] := by
    rw [formsOf_eq_replicate nonempty forms, many, List.replicate_succ']
  have alone : formsOf [t] = [t] :=
    formsOf_eq_replicate nonempty (List.forall_mem_singleton.mpr fixed)
  have texts : distinctFrom defaults (formsOf (before ++ tokens ++ after)) =
      distinctFrom defaults (formsOf (before ++ [t] ++ after)) := by
    rw [formsOf_append, formsOf_append, given, formsOf_append, formsOf_append, alone]
    simp only [List.append_assoc, List.singleton_append]
    rw [distinctFrom_append, distinctFrom_replicate_append, ← distinctFrom_append]
  rw [normalize_eq, normalize_eq]
  exact congrArg (defaults ++ ·) texts

/-- Whatever the spelling, a rule has the same text, if this is in lower case, has no blanks around
it and neither begins nor ends with a dot. It is a single entry of the rules in force, however often
and in however many spellings it is given, and the other entries are those beside its text. -/
theorem spellings_collapse {t : String} (rule : IsRuleText t) (first : t.toList.head? ≠ some '.')
    (last : t.toList.getLast? ≠ some '.') :
    (∀ s, Spells t s → canonical s = t) ∧
      (∀ tokens : List String, (∃ s ∈ tokens, Spells t s) →
        (normalize (.list tokens)).count t = 1) ∧
      ∀ before tokens after : List String, tokens ≠ [] → (∀ s ∈ tokens, Spells t s) →
        normalize (.list (before ++ tokens ++ after)) =
          normalize (.list (before ++ [t] ++ after)) := by
  have canonical_eq : ∀ s, Spells t s → canonical s = t := fun _ =>
    canonical_of_spells rule first last
  refine ⟨canonical_eq, ?_, ?_⟩
  · rintro tokens ⟨s, given, spells⟩
    apply List.count_eq_one_of_mem (nodup_normalize _)
    exact mem_normalize_iff.mpr
      ⟨rule.nonempty, s, List.mem_append_right _ given, canonical_eq s spells⟩
  · intro before tokens after some spells
    have fixed := rule.canonical_eq_self_iff.mpr ⟨first, last⟩
    exact normalize_collapse rule.nonempty fixed some
      (fun s given => canonical_eq s (spells s given)) before after

/-- A spelling with blanks, dots and a capital letter, and one with capital letters only. -/
theorem spellings_collapse_decorated :
    canonical "\t.. Example.com ." = "example.com" ∧
      (normalize (.list ["\t.. Example.com .", "a.test", "example.COM"])).count "example.com" =
        1 := by
  have rule : IsRuleText "example.com" := by
    refine ⟨by decide, by decide +kernel, ?_, ?_⟩
    · rintro c ⟨⟩
      decide
    · rintro c ⟨⟩
      decide
  have spells : Spells "example.com" "\t.. Example.com ." := by
    have parts : "\t.. Example.com ." =
        "\t" ++ ".." ++ " " ++ "Example.com" ++ " " ++ "." ++ "" := by decide
    rw [parts]
    refine .intro ?_ ?_ (by decide +kernel) (Or.inr rfl)
    · simp [isBlank]
    · simp
  have collapse := spellings_collapse rule (by decide) (by decide)
  exact ⟨collapse.1 _ spells, collapse.2.1 _ ⟨_, List.mem_cons_self, spells⟩⟩

end Bypass

end Egress
