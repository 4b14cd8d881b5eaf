import Egress.Proofs.RuleOrder

/-!
# Rules in one text

The user's own rules can be shown as one text to be edited, with commas or line ends between them
and blanks wherever it looks good. If the text is given back as it is, the rules in force are the
same again exactly if no rule has a comma or a line end in it and none begins or ends with a dot.

Tokens that are joined give what they give as the entries of a list, whatever they are, as long as
none of them is cut. This is the first half; the other half is that the built-in rules may be left
out of a list, and what is known of a list of rules that is given back.
-/

namespace Egress

namespace Bypass

open Text (isBlank IsCaseless)

/-- Tokens in one text. Between two of them stands a comma or a line end at least, and with it any
further ones and any blanks. -/
inductive Joined : List String → String → Prop where
  | nil : Joined [] ""
  | last (t : String) : Joined [t] t
  | cons {t t' gap text : String} {rest : List String}
      (filler : ∀ c ∈ gap.toList, Input.isSeparator c = true ∨ isBlank c = true)
      (separates : ∃ c ∈ gap.toList, Input.isSeparator c = true)
      (joined : Joined (t' :: rest) text) : Joined (t :: t' :: rest) (t ++ gap ++ text)

def IsUncut (t : String) : Prop :=
  ',' ∉ t.toList ∧ '\n' ∉ t.toList

theorem isUncut_iff {t : String} : IsUncut t ↔ ∀ c ∈ t.toList, Input.isSeparator c = false := by
  constructor
  · rintro ⟨comma, newline⟩ c mem
    rw [Input.isSeparator_eq_false_iff]
    constructor <;> rintro rfl <;> contradiction
  · intro inside
    constructor <;> intro mem <;> cases inside _ mem

theorem CutInto.isUncut {text : List Char} {pieces : List String} (cut : CutInto text pieces) :
    ∀ t ∈ pieces, IsUncut t := by
  have piece {cs : List Char} (clean : ∀ c ∈ cs, c ≠ ',' ∧ c ≠ '\n') :
      IsUncut (String.ofList cs) := by
    rw [isUncut_iff, String.toList_ofList]
    exact fun c mem => (Input.isSeparator_eq_false_iff c).mpr (clean c mem)
  induction cut with
  | whole clean => exact List.forall_mem_singleton.mpr (piece clean)
  | cut clean _ _ ih => exact List.forall_mem_cons.mpr ⟨piece clean, ih⟩

/-! ## What pieces of a text give -/

def piecesOf (cs : List Char) : List String :=
  (cs.splitOnP Input.isSeparator).map String.ofList

def formsOf (tokens : List String) : List String :=
  (tokens.map canonical).filter fun t => !t.isEmpty

theorem formsOf_append (xs ys : List String) : formsOf (xs ++ ys) = formsOf xs ++ formsOf ys := by
  rw [formsOf, List.map_append, List.filter_append, formsOf, formsOf]

/-- Only the canonical form of a token matters. -/
theorem formsOf_cons_congr {t t' : String} (same : canonical t = canonical t')
    (rest : List String) :
    formsOf (t :: rest) = formsOf (t' :: rest) := by
  rw [formsOf, List.map_cons, same, ← List.map_cons, formsOf]

theorem canonical_congr {cs cs' : List Char} (same : Text.trimChars cs = Text.trimChars cs') :
    canonical (String.ofList cs) = canonical (String.ofList cs') := by
  rw [← String.toList_inj, toList_canonical, toList_canonical, String.toList_ofList,
    String.toList_ofList, canonicalChars, Text.normalChars, same, canonicalChars, Text.normalChars]

theorem piecesOf_append_cons {separator : Char} (separates : Input.isSeparator separator = true)
    (xs ys : List Char) : piecesOf (xs ++ separator :: ys) = piecesOf xs ++ piecesOf ys := by
  rw [piecesOf, List.splitOnP_append_cons xs ys separates, List.map_append, piecesOf, piecesOf]

theorem piecesOf_of_inside {cs : List Char} (inside : ∀ c ∈ cs, Input.isSeparator c = false) :
    piecesOf cs = [String.ofList cs] := by
  rw [piecesOf, List.splitOnP_eq_singleton inside, List.map_singleton]

/-- An empty piece gives no rule. -/
theorem formsOf_piecesOf_nil : formsOf (piecesOf []) = [] :=
  rfl

/-- A blank in front of a text changes nothing. -/
theorem formsOf_piecesOf_blank {c : Char} (blank : isBlank c = true) (cs : List Char) :
    formsOf (piecesOf (c :: cs)) = formsOf (piecesOf cs) := by
  rw [piecesOf, List.splitOnP_cons_eq_if_modifyHead]
  split
  · rw [List.map_cons, ← List.singleton_append, formsOf_append]
    exact List.nil_append _
  · obtain ⟨piece, pieces, split⟩ :=
      List.exists_cons_of_ne_nil (List.splitOnP_ne_nil Input.isSeparator cs)
    have trimmed := Text.trimChars_between (List.forall_mem_singleton.mpr blank) piece
      (List.forall_mem_nil _)
    rw [List.append_nil] at trimmed
    rw [piecesOf, split]
    exact formsOf_cons_congr (canonical_congr trimmed) _

/-- Separators and blanks in front of a text change nothing. -/
theorem formsOf_piecesOf_filler {gap : List Char}
    (filler : ∀ c ∈ gap, Input.isSeparator c = true ∨ isBlank c = true) (cs : List Char) :
    formsOf (piecesOf (gap ++ cs)) = formsOf (piecesOf cs) := by
  induction gap with
  | nil => rfl
  | cons c gap ih =>
    obtain ⟨here, filler⟩ := List.forall_mem_cons.mp filler
    rcases here with separates | blank
    · have cut := piecesOf_append_cons separates [] (gap ++ cs)
      rw [List.nil_append] at cut
      rw [List.cons_append, cut, formsOf_append, formsOf_piecesOf_nil, List.nil_append, ih filler]
    · rw [List.cons_append, formsOf_piecesOf_blank blank, ih filler]

/-- What separates is cut where it does so first. In front of that there can only be blanks. -/
theorem exists_first_separator {gap : List Char}
    (filler : ∀ c ∈ gap, Input.isSeparator c = true ∨ isBlank c = true)
    (separates : ∃ c ∈ gap, Input.isSeparator c = true) :
    ∃ before separator after, gap = before ++ separator :: after ∧
      Input.isSeparator separator = true ∧
      ∀ c ∈ before, Input.isSeparator c = false ∧ isBlank c = true := by
  obtain ⟨separator, first⟩ := Option.isSome_iff_exists.mp (List.find?_isSome.mpr separates)
  obtain ⟨here, before, after, rfl, earlier⟩ := List.find?_eq_some_iff_append.mp first
  refine ⟨before, separator, after, rfl, here, ?_⟩
  intro c mem
  have inside : Input.isSeparator c = false := by simpa using earlier c mem
  refine ⟨inside, (filler c (List.mem_append_left _ mem)).resolve_left ?_⟩
  rw [inside]
  exact Bool.false_ne_true

/-- A token in front of a gap gives what it gives alone. -/
theorem formsOf_piecesOf_token {t : String} (uncut : IsUncut t) {gap : List Char}
    (filler : ∀ c ∈ gap, Input.isSeparator c = true ∨ isBlank c = true)
    (separates : ∃ c ∈ gap, Input.isSeparator c = true) (cs : List Char) :
    formsOf (piecesOf (t.toList ++ gap ++ cs)) = formsOf [t] ++ formsOf (piecesOf cs) := by
  obtain ⟨before, separator, after, rfl, here, blanks⟩ := exists_first_separator filler separates
  have piece : piecesOf (t.toList ++ before) = [String.ofList (t.toList ++ before)] := by
    apply piecesOf_of_inside
    intro c mem
    rcases List.mem_append.mp mem with mem | mem
    · exact isUncut_iff.mp uncut c mem
    · exact (blanks c mem).1
  have form : canonical (String.ofList (t.toList ++ before)) = canonical t := by
    have trimmed :=
      Text.trimChars_between (List.forall_mem_nil _) t.toList fun c mem => (blanks c mem).2
    have same := canonical_congr trimmed
    rwa [String.ofList_toList] at same
  have rear : formsOf (piecesOf (after ++ cs)) = formsOf (piecesOf cs) :=
    formsOf_piecesOf_filler
      (fun c mem => filler c (List.mem_append_right _ (List.mem_cons_of_mem _ mem))) cs
  calc formsOf (piecesOf (t.toList ++ (before ++ separator :: after) ++ cs))
      = formsOf (piecesOf ((t.toList ++ before) ++ separator :: (after ++ cs))) := by
        simp only [List.append_assoc, List.cons_append]
    _ = formsOf [String.ofList (t.toList ++ before)] ++ formsOf (piecesOf (after ++ cs)) := by
        rw [piecesOf_append_cons here, formsOf_append, piece]
    _ = formsOf [t] ++ formsOf (piecesOf cs) := by
        rw [formsOf_cons_congr form, rear]

/-- Joined tokens give what they give one by one. -/
theorem Joined.formsOf_piecesOf {texts : List String} {text : String} (joined : Joined texts text)
    (uncut : ∀ t ∈ texts, IsUncut t) : formsOf (piecesOf text.toList) = formsOf texts := by
  induction joined with
  | nil => rfl
  | last t =>
    have inside := isUncut_iff.mp (uncut t (List.mem_singleton_self t))
    rw [piecesOf_of_inside inside, String.ofList_toList]
  | cons filler separates _ ih =>
    obtain ⟨here, uncut⟩ := List.forall_mem_cons.mp uncut
    rw [String.toList_append, String.toList_append, formsOf_piecesOf_token here filler separates,
      ih uncut, ← formsOf_append, List.singleton_append]

/-- A text of joined tokens gives the same rules as the list of them, if no token is cut. -/
theorem Joined.normalize_delimited {texts : List String} {text : String}
    (joined : Joined texts text) (uncut : ∀ t ∈ texts, IsUncut t) :
    normalize (.delimited text) = normalize (.list texts) := by
  have forms := joined.formsOf_piecesOf uncut
  rw [Bypass.normalize_eq, Bypass.normalize_eq]
  exact congrArg (defaults ++ distinctFrom defaults ·) forms

/-! ## Rules of a text -/

theorem isUncut_default : ∀ t ∈ defaults, IsUncut t := by
  unfold IsUncut
  decide

/-- No rule of a text has a comma or a line end in it. -/
theorem isUncut_of_mem_normalize {text t : String} (mem : t ∈ normalize (.delimited text)) :
    IsUncut t := by
  obtain ⟨_, token, given, rfl⟩ := mem_normalize_iff.mp mem
  have uncut : IsUncut token := by
    rcases List.mem_append.mp given with builtIn | given
    · exact isUncut_default token builtIn
    · exact (cutInto_splitOnP text.toList).isUncut token given
  exact ⟨fun comma => uncut.1 (mem_of_mem_canonical Text.isCaseless_comma comma),
    fun newline => uncut.2 (mem_of_mem_canonical (Text.isCaseless_of_isBlank rfl) newline)⟩

/-- The user's own rules, joined in one text, give the rules in force again exactly if none of these
has a comma or a line end in it and none begins or ends with a dot. -/
theorem normalize_joined_iff (input : Input) {text : String}
    (joined : Joined (userRules (normalize input)) text) :
    normalize (.delimited text) = normalize input ↔
      ∀ t ∈ normalize input, ',' ∉ t.toList ∧ '\n' ∉ t.toList ∧
        t.toList.head? ≠ some '.' ∧ t.toList.getLast? ≠ some '.' := by
  have asList (uncut : ∀ t ∈ normalize input, IsUncut t) :
      normalize (.delimited text) = normalize (.list (normalize input)) := by
    have own := joined.normalize_delimited fun t mem => uncut t (List.mem_of_mem_filter mem)
    rw [own, ← normalize_defaults_append, ← normalize_eq_append_userRules]
  constructor
  · intro same
    have uncut : ∀ t ∈ normalize input, IsUncut t := by
      rw [← same]
      exact fun t => isUncut_of_mem_normalize
    rw [asList uncut, normalize_normalize_iff] at same
    exact fun t mem => ⟨(uncut t mem).1, (uncut t mem).2, same t mem⟩
  · intro stable
    rw [asList fun t mem => ⟨(stable t mem).1, (stable t mem).2.1⟩, normalize_normalize_iff]
    exact fun t mem => (stable t mem).2.2

/-- Three rules of the user's own, with a comma after the first and a line end after the second. -/
theorem normalize_joined_spaced :
    Joined (userRules (normalize (.list ["A.com.", "localhost", "*.B.com", "10.0.0.0/8"])))
        ("a.com" ++ " , " ++ ("*.b.com" ++ "\n  " ++ "10.0.0.0/8")) ∧
      normalize (.delimited ("a.com" ++ " , " ++ ("*.b.com" ++ "\n  " ++ "10.0.0.0/8"))) =
        normalize (.list ["A.com.", "localhost", "*.B.com", "10.0.0.0/8"]) := by
  have own : userRules (normalize (.list ["A.com.", "localhost", "*.B.com", "10.0.0.0/8"])) =
      ["a.com", "*.b.com", "10.0.0.0/8"] := by
    decide +kernel
  have joined : Joined ["a.com", "*.b.com", "10.0.0.0/8"]
      ("a.com" ++ " , " ++ ("*.b.com" ++ "\n  " ++ "10.0.0.0/8")) := by
    refine .cons ?_ ⟨',', by decide, rfl⟩ (.cons ?_ ⟨'\n', by decide, rfl⟩ (.last _))
    · simp [Input.isSeparator, isBlank]
    · simp [Input.isSeparator, isBlank]
  rw [← own] at joined
  refine ⟨joined, (normalize_joined_iff _ joined).mpr ?_⟩
  decide +kernel

end Bypass

end Egress
