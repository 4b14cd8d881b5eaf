import Mathlib.Data.List.Basic
import Egress.Proofs.StableLists

/-!
# The order of the rules in force

The built-in rules come first. Behind them stand the canonical forms of the given tokens that are
neither empty nor built in, each once, in the order in which they come up for the first time.
Nothing else is a list of the rules in force, and the part behind the built-in rules is what the
user's own rules are.

The tokens are the entries of a list, or the pieces between the commas and line ends of a text. A
piece may be empty; it gives no rule then.
-/

namespace Egress.Bypass

/-- The texts of `given` that are wanted, each once, in the order of their first occurrences
there. -/
structure FirstOccurrences (wanted : String → Prop) (given found : List String) : Prop where
  mem_iff : ∀ t, t ∈ found ↔ t ∈ given ∧ wanted t
  inOrder : found.Pairwise fun s t => given.idxOf s < given.idxOf t

namespace FirstOccurrences

variable {wanted : String → Prop} {given found found' : List String}

theorem nodup (first : FirstOccurrences wanted given found) : found.Nodup := by
  refine first.inOrder.imp fun before => ?_
  rintro rfl
  exact absurd before (Nat.lt_irrefl _)

theorem unique (first : FirstOccurrences wanted given found)
    (first' : FirstOccurrences wanted given found') : found = found' := by
  have same : found.Perm found' := by
    rw [List.perm_ext_iff_of_nodup first.nodup first'.nodup]
    intro t
    rw [first.mem_iff, first'.mem_iff]
  refine List.Perm.eq_of_pairwise ?_ first.inOrder first'.inOrder same
  intro s t _ _ before after
  omega

/-- One text more in front, which is wanted. -/
theorem cons {t : String} (isWanted : wanted t)
    (first : FirstOccurrences (fun s => wanted s ∧ s ≠ t) given found) :
    FirstOccurrences wanted (t :: given) (t :: found) where
  mem_iff := by
    intro s
    rw [List.mem_cons, List.mem_cons, first.mem_iff]
    by_cases same : s = t
    · simp [same, isWanted]
    · simp [same]
  inOrder := by
    have later : ∀ s ∈ found, (t :: given).idxOf s = given.idxOf s + 1 := by
      intro s mem
      exact List.idxOf_cons_ne given ((first.mem_iff s).mp mem).2.2.symm
    refine List.pairwise_cons.mpr ⟨?_, ?_⟩
    · intro s mem
      rw [List.idxOf_cons_self, later s mem]
      exact Nat.succ_pos _
    · refine first.inOrder.imp_of_mem ?_
      intro s s' mem mem' before
      rw [later s mem, later s' mem']
      exact Nat.succ_lt_succ before

/-- One text more in front, which is not wanted. -/
theorem skip {t : String} (unwanted : ¬ wanted t) (first : FirstOccurrences wanted given found) :
    FirstOccurrences wanted (t :: given) found where
  mem_iff := by
    intro s
    rw [first.mem_iff, List.mem_cons]
    constructor
    · exact fun ⟨mem, isWanted⟩ => ⟨Or.inr mem, isWanted⟩
    · rintro ⟨rfl | mem, isWanted⟩
      · exact absurd isWanted unwanted
      · exact ⟨mem, isWanted⟩
  inOrder := by
    have later : ∀ s ∈ found, (t :: given).idxOf s = given.idxOf s + 1 := by
      intro s mem
      refine List.idxOf_cons_ne given ?_
      rintro rfl
      exact unwanted ((first.mem_iff t).mp mem).2
    refine first.inOrder.imp_of_mem ?_
    intro s s' mem mem' before
    rw [later s mem, later s' mem']
    exact Nat.succ_lt_succ before

theorem congr {wanted' : String → Prop} (same : ∀ t, wanted t ↔ wanted' t)
    (first : FirstOccurrences wanted given found) : FirstOccurrences wanted' given found where
  mem_iff := fun t => by rw [first.mem_iff, same]
  inOrder := first.inOrder

end FirstOccurrences

/-- The distinct texts that are not empty and not among those seen. -/
theorem firstOccurrences_distinctFrom (seen texts : List String) :
    FirstOccurrences (fun t => t ≠ "" ∧ t ∉ seen) texts
      (distinctFrom seen (texts.filter fun t => !t.isEmpty)) := by
  induction texts generalizing seen with
  | nil => exact ⟨by simp [distinctFrom], List.Pairwise.nil⟩
  | cons t texts ih =>
    by_cases empty : t = ""
    · rw [List.filter_cons_of_neg (by simp [empty])]
      exact (ih seen).skip fun wanted => wanted.1 empty
    · rw [List.filter_cons_of_pos (by simp [empty]), distinctFrom]
      by_cases old : t ∈ seen
      · rw [if_pos (List.contains_iff_mem.mpr old)]
        exact (ih seen).skip fun wanted => wanted.2 old
      · rw [if_neg (by simpa using old)]
        refine FirstOccurrences.cons ⟨empty, old⟩ ((ih (t :: seen)).congr ?_)
        intro s
        rw [List.mem_cons, not_or, and_assoc, and_comm (a := s ≠ t)]

/-! ## Tokens -/

/-- A text cut at its commas and line ends. -/
inductive CutInto : List Char → List String → Prop where
  | whole {piece : List Char} (clean : ∀ c ∈ piece, c ≠ ',' ∧ c ≠ '\n') :
      CutInto piece [String.ofList piece]
  | cut {piece : List Char} {separator : Char} {rest : List Char} {pieces : List String}
      (clean : ∀ c ∈ piece, c ≠ ',' ∧ c ≠ '\n') (separates : separator = ',' ∨ separator = '\n')
      (cutRest : CutInto rest pieces) :
      CutInto (piece ++ separator :: rest) (String.ofList piece :: pieces)

inductive Input.Gives : Input → List String → Prop where
  | list (tokens : List String) : Gives (.list tokens) tokens
  | delimited {text : String} {pieces : List String} (cut : CutInto text.toList pieces) :
      Gives (.delimited text) pieces
  | absent : Gives .absent []

theorem Input.isSeparator_iff (c : Char) : isSeparator c = true ↔ c = ',' ∨ c = '\n' := by
  rw [isSeparator, Bool.or_eq_true, beq_iff_eq, beq_iff_eq]

theorem Input.isSeparator_eq_false_iff (c : Char) : isSeparator c = false ↔ c ≠ ',' ∧ c ≠ '\n' := by
  rw [Bool.eq_false_iff, ne_eq, isSeparator_iff, not_or]

/-- A character more in front belongs to the first piece. -/
theorem CutInto.cons {c : Char} (clean : c ≠ ',' ∧ c ≠ '\n') {text piece : List Char}
    {pieces : List String} (cut : CutInto text (String.ofList piece :: pieces)) :
    CutInto (c :: text) (String.ofList (c :: piece) :: pieces) := by
  generalize whole : String.ofList piece :: pieces = all at cut
  cases cut with
  | whole cleanPiece =>
    obtain ⟨same, rfl⟩ := List.cons.inj whole
    obtain rfl := String.ofList_injective same
    exact .whole (List.forall_mem_cons.mpr ⟨clean, cleanPiece⟩)
  | cut cleanPiece separates cutRest =>
    obtain ⟨same, rfl⟩ := List.cons.inj whole
    obtain rfl := String.ofList_injective same
    exact .cut (List.forall_mem_cons.mpr ⟨clean, cleanPiece⟩) separates cutRest

theorem cutInto_splitOnP (text : List Char) :
    CutInto text ((text.splitOnP Input.isSeparator).map String.ofList) := by
  induction text with
  | nil => exact .whole (by simp)
  | cons c text ih =>
    rw [List.splitOnP_cons_eq_if_modifyHead]
    split
    · next separates =>
      have cut := CutInto.cut (List.forall_mem_nil _) ((Input.isSeparator_iff c).mp separates) ih
      exact cut
    · next inside =>
      have clean := (Input.isSeparator_eq_false_iff c).mp (Bool.eq_false_iff.mpr inside)
      obtain ⟨piece, pieces, split⟩ :=
        List.exists_cons_of_ne_nil (List.splitOnP_ne_nil Input.isSeparator text)
      rw [split] at ih ⊢
      exact ih.cons clean

theorem CutInto.eq {text : List Char} {pieces : List String} (cut : CutInto text pieces) :
    pieces = (text.splitOnP Input.isSeparator).map String.ofList := by
  induction cut with
  | whole clean =>
    rw [List.splitOnP_eq_singleton
      fun c mem => (Input.isSeparator_eq_false_iff c).mpr (clean c mem)]
    rfl
  | cut clean separates _ ih =>
    rw [List.splitOnP_append_cons_of_forall_mem
      (fun c mem => (Input.isSeparator_eq_false_iff c).mpr (clean c mem)) _
      ((Input.isSeparator_iff _).mpr separates), ih, List.map_cons]

theorem Input.gives_iff (input : Input) (tokens : List String) :
    input.Gives tokens ↔ tokens = input.tokens := by
  constructor
  · rintro (_ | cut | _)
    · rfl
    · exact cut.eq
    · rfl
  · rintro rfl
    cases input with
    | list ts => exact .list ts
    | delimited text => exact .delimited (cutInto_splitOnP text.toList)
    | absent => exact .absent

/-! ## The rules in force -/

/-- Whether a text can be a rule of the user's own. -/
def IsOwn (t : String) : Prop :=
  t ≠ "" ∧ t ∉ defaults

/-- The user's own rules are those behind the built-in ones. -/
theorem userRules_append {rules : List String} (own : ∀ t ∈ rules, t ∉ defaults) :
    userRules (defaults ++ rules) = rules := by
  have builtIn : defaults.map canonical = defaults := by
    rw [List.map_congr_left canonical_default, List.map_id']
  rw [userRules, builtIn, List.filter_append, List.filter_eq_nil_iff.mpr, List.nil_append,
    List.filter_eq_self]
  · simpa using own
  · simp

/-- The user's own rules are what stands behind the built-in ones. -/
theorem normalize_eq_append_userRules (input : Input) :
    normalize input = defaults ++ userRules (normalize input) := by
  have own : ∀ t ∈ distinctFrom defaults ((input.tokens.map canonical).filter fun t => !t.isEmpty),
      t ∉ defaults := fun t mem => (mem_distinctFrom_iff.mp mem).2
  rw [normalize_eq, userRules_append own]

/-- The rules in force are the built-in ones and, behind them, the canonical forms of the tokens
that are neither empty nor built in, each once and in the order of their first occurrences. These
are the user's own rules. -/
theorem normalize_eq_append_iff (input : Input) :
    (∀ tokens, input.Gives tokens ↔ tokens = input.tokens) ∧
    (∀ rules, normalize input = defaults ++ rules ↔
      FirstOccurrences IsOwn (input.tokens.map canonical) rules) ∧
    normalize input = defaults ++ userRules (normalize input) := by
  have first := firstOccurrences_distinctFrom defaults (input.tokens.map canonical)
  have split := normalize_eq input
  refine ⟨input.gives_iff, ?_, normalize_eq_append_userRules input⟩
  intro rules
  constructor
  · intro whole
    rw [split, List.append_cancel_left_eq] at whole
    rwa [whole] at first
  · intro first'
    rw [split, first.unique first']

/-- Tokens that are empty, built in or spelled in another way give no further rule. -/
example : normalize (.delimited "b.com, .A.com\n*.c.com,,LOCALHOST\na.com.") =
    defaults ++ ["b.com", "a.com", "*.c.com"] := by
  decide +kernel

end Egress.Bypass
