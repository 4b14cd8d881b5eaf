import Mathlib
import Egress.LogFilter.Basic
import Egress.Proofs.VisibleTexts

/-!
# Directives of a filter

Two things about directives. Of several that speak of an event, one decides: directives are ordered
by how specific they are, and of equally specific ones the last decides. So what decides in a list
follows from what decides in its parts, and it does not matter that a part comes twice. And a text
with an equals sign behind a name is read as a threshold for this name, a missing threshold meaning
that all passes.
-/

namespace Egress

namespace LogFilter

namespace Directive

/-! ## Which directive decides -/

theorem fieldRank_trans {a b c : List Char} (ab : b.lex a = false) (bc : c.lex b = false) :
    c.lex a = false := by
  rw [List.lex_eq_false_iff_ge] at *
  exact List.le_trans ab bc

theorem fieldRank_total {a b : List Char} (above : b.lex a = true) : a.lex b = false := by
  rw [List.lex_eq_true_iff_lt] at above
  rw [List.lex_eq_false_iff_ge]
  exact List.le_of_lt above

theorem yieldsTo_iff (d e : Directive) :
    d.yieldsTo e = true ↔
      d.targetRank < e.targetRank ∨
        d.targetRank = e.targetRank ∧ e.fieldRank.lex d.fieldRank = false := by
  simp [yieldsTo]

theorem yieldsTo_trans {a b c : Directive} (ab : a.yieldsTo b = true) (bc : b.yieldsTo c = true) :
    a.yieldsTo c = true := by
  rw [yieldsTo_iff] at *
  rcases ab with shorter | ⟨same, before⟩
  · left
    omega
  · rcases bc with shorter | ⟨same', before'⟩
    · left
      omega
    · exact Or.inr ⟨same.trans same', fieldRank_trans before before'⟩

/-- Of two directives one gives way to the other. -/
theorem yieldsTo_total {a b : Directive} (stays : ¬ a.yieldsTo b = true) : b.yieldsTo a = true := by
  rw [yieldsTo_iff, not_or] at stays
  rw [yieldsTo_iff]
  by_cases same : a.targetRank = b.targetRank
  · right
    refine ⟨same.symm, fieldRank_total ?_⟩
    rw [← Bool.not_eq_false]
    exact fun before => stays.2 ⟨same, before⟩
  · left
    omega

/-- The one of two directives that decides, if the second one comes later. -/
def followedBy (d e : Directive) : Directive :=
  if d.yieldsTo e then e else d

theorem followedBy_of_yieldsTo {d e : Directive} (yields : d.yieldsTo e = true) :
    d.followedBy e = e :=
  if_pos yields

theorem followedBy_of_not_yieldsTo {d e : Directive} (stays : ¬ d.yieldsTo e = true) :
    d.followedBy e = d :=
  if_neg stays

theorem followedBy_self (d : Directive) : d.followedBy d = d :=
  ite_self d

theorem followedBy_assoc (a b c : Directive) :
    (a.followedBy b).followedBy c = a.followedBy (b.followedBy c) := by
  by_cases ab : a.yieldsTo b = true
  · by_cases bc : b.yieldsTo c = true
    · rw [followedBy_of_yieldsTo ab, followedBy_of_yieldsTo bc,
        followedBy_of_yieldsTo (yieldsTo_trans ab bc)]
    · rw [followedBy_of_yieldsTo ab, followedBy_of_not_yieldsTo bc, followedBy_of_yieldsTo ab]
  · by_cases bc : b.yieldsTo c = true
    · rw [followedBy_of_not_yieldsTo ab, followedBy_of_yieldsTo bc]
    · have ac : ¬ a.yieldsTo c = true := fun yields =>
        bc (yieldsTo_trans (yieldsTo_total ab) yields)
      rw [followedBy_of_not_yieldsTo ab, followedBy_of_not_yieldsTo bc,
        followedBy_of_not_yieldsTo ab, followedBy_of_not_yieldsTo ac]

end Directive

/-- The directive of a list that decides if all of them speak of the event. -/
def decider : List Directive → Option Directive
  | [] => none
  | d :: ds => Option.merge Directive.followedBy (some d) (decider ds)

theorem merge_followedBy_assoc (x y z : Option Directive) :
    Option.merge Directive.followedBy (Option.merge Directive.followedBy x y) z =
      Option.merge Directive.followedBy x (Option.merge Directive.followedBy y z) := by
  cases x <;> cases y <;> cases z <;> simp [Option.merge, Directive.followedBy_assoc]

theorem merge_followedBy_self (x : Option Directive) :
    Option.merge Directive.followedBy x x = x := by
  cases x <;> simp [Option.merge, Directive.followedBy_self]

theorem decider_append (ds es : List Directive) :
    decider (ds ++ es) = Option.merge Directive.followedBy (decider ds) (decider es) := by
  induction ds with
  | nil => simp [decider]
  | cons d ds ih => rw [List.cons_append, decider, ih, ← merge_followedBy_assoc, decider]

theorem mem_of_decider {ds : List Directive} {d : Directive} (decides : decider ds = some d) :
    d ∈ ds := by
  induction ds generalizing d with
  | nil => cases decides
  | cons e ds ih =>
    rw [decider] at decides
    cases rest : decider ds with
    | none =>
      rw [rest, Option.merge_none_right] at decides
      cases decides
      exact List.mem_cons_self
    | some r =>
      rw [rest] at decides
      by_cases yields : e.yieldsTo r = true
      · rw [Option.merge, Directive.followedBy_of_yieldsTo yields] at decides
        cases decides
        exact List.mem_cons_of_mem e (ih rest)
      · rw [Option.merge, Directive.followedBy_of_not_yieldsTo yields] at decides
        cases decides
        exact List.mem_cons_self

theorem decisive_eq_decider (f : LogFilter) (target : List Char) (fields : List (List Char)) :
    f.decisive target fields = decider (f.directives.filter fun d => d.covers target fields) := by
  have none_left (x : Option Directive) : x = Option.merge Directive.followedBy none x := by
    simp
  rw [decisive, none_left (decider _)]
  generalize f.directives.filter (fun d => d.covers target fields) = ds
  generalize (none : Option Directive) = best
  induction ds generalizing best with
  | nil => simp [decider]
  | cons d ds ih =>
    rw [List.foldl_cons, ih, decider, ← merge_followedBy_assoc]
    congr 1
    cases best with
    | none => rfl
    | some b =>
      simp only [Option.merge, Directive.followedBy]
      split <;> rfl

namespace Directive

/-! ## Thresholds for a name -/

/-- Nothing but an equals sign or a bracket ends a word. -/
theorem run_word (cs : List Char) (d : Directive) (start : Nat) {word : List Char}
    (plain : ∀ c ∈ word, c ≠ '=' ∧ c ≠ '[') (i : Nat) (rest : List Char) :
    run cs i d (.word start) (word ++ rest) = run cs (i + word.length) d (.word start) rest := by
  induction word generalizing i with
  | nil => rfl
  | cons c word ih =>
    obtain ⟨here, plain⟩ := List.forall_mem_cons.mp plain
    rw [List.cons_append, run, step, if_neg here.1, if_neg here.2]
    simp only [ih plain, List.length_cons, Nat.add_assoc, Nat.add_comm 1]

/-- A threshold reaches to the end. -/
theorem run_threshold (cs : List Char) (d : Directive) (start i : Nat) (rest : List Char) :
    run cs i d (.threshold start) rest = some (d, .threshold start) := by
  induction rest generalizing i with
  | nil => rfl
  | cons c rest ih =>
    rw [run, step]
    exact ih (i + 1)

/-- The threshold that a text behind an equals sign means. -/
def assigned? (value : List Char) : Option Threshold :=
  if value = [] then some (some .trace) else threshold? value

/-- A name that a directive may begin with, and that reaches as far as an equals sign. -/
structure IsPlainName (first : Char) (rest : List Char) : Prop where
  begins : mayBegin first = true
  unbracketed : first ≠ '['
  visible : Text.isBlank first = false
  plain : ∀ c ∈ rest, c ≠ '=' ∧ c ≠ '['

/-- A text with an equals sign behind a name sets a threshold for this name, if it can be read at
all. -/
theorem parse?_assignment {first : Char} {rest : List Char} (isName : IsPlainName first rest)
    (value : List Char) :
    parse? (first :: rest ++ '=' :: value) =
      (assigned? value).map fun t => { target := some (first :: rest), threshold := t } := by
  have stays : ¬ Text.isBlank first = true := by simp [isName.visible]
  have trimmed : Text.trimChars (first :: rest ++ '=' :: value) =
      first :: (rest ++ '=' :: Text.dropLastWhile Text.isBlank value) := by
    rw [Text.trimChars, List.cons_append, List.dropWhile_cons_of_neg stays, ← List.cons_append,
      Text.dropLastWhile_append_cons (by decide), List.cons_append]
  have sliced : slice (first :: rest ++ '=' :: value) 0 (0 + 1 + rest.length) = first :: rest := by
    have length : 0 + 1 + rest.length = (first :: rest).length := by
      rw [List.length_cons]
      omega
    rw [slice, length, List.take_left, List.drop_zero]
  have behind : (first :: rest ++ '=' :: value).drop (0 + 1 + rest.length + 1) = value := by
    have split : first :: rest ++ '=' :: value = (first :: rest ++ ['=']) ++ value := by simp
    have length : 0 + 1 + rest.length + 1 = (first :: rest ++ ['=']).length := by
      simp
      omega
    rw [split, length, List.drop_left]
  rw [parse?, trimmed]
  generalize first :: rest ++ '=' :: value = cs at sliced behind
  rw [run, step, if_neg isName.unbracketed, if_pos isName.begins]
  simp only [run_word _ _ _ isName.plain]
  rw [run, step, if_pos rfl]
  simp only [run_threshold, finish, sliced, behind, assigned?]
  split
  · rfl
  · rfl

/-! ## Levels -/

def levelNames : List String := ["off", "error", "warn", "info", "debug", "trace"]

theorem mem_levelNames {name : List Char} {t : Threshold} (named : thresholdOfName? name = some t) :
    String.ofList name ∈ levelNames := by
  unfold thresholdOfName? at named
  split at named
  case h_7 => cases named
  all_goals
    next same =>
      rw [same]
      simp [levelNames]

/-- What is a level consists of letters and digits, a plus sign aside. -/
theorem isAlphanum_of_threshold? {cs : List Char} {t : Threshold} (level : threshold? cs = some t) :
    cs ≠ [] ∧ ∀ c ∈ cs, c = '+' ∨ c.isAlphanum = true := by
  have byName (named : thresholdOfName? (cs.map Char.toLower) = some t) :
      cs ≠ [] ∧ ∀ c ∈ cs, c = '+' ∨ c.isAlphanum = true := by
    have letters : ∀ name ∈ levelNames, name.toList ≠ [] ∧ name.toList.all Char.isAlpha = true := by
      decide
    obtain ⟨some, alpha⟩ := letters _ (mem_levelNames named)
    rw [String.toList_ofList] at some alpha
    refine ⟨mt (congrArg (List.map Char.toLower)) some, ?_⟩
    intro c mem
    have small := List.all_eq_true.mp alpha _ (List.mem_map_of_mem mem)
    rw [Char.isAlpha_toLower_eq_isAlpha] at small
    right
    rw [Char.isAlphanum, small, Bool.true_or]
  have byNumber {ds : List Char} (digits : (!ds.isEmpty && ds.all Char.isDigit) = true) :
      ds ≠ [] ∧ ∀ c ∈ ds, c = '+' ∨ c.isAlphanum = true := by
    rw [Bool.and_eq_true, Bool.not_eq_true', List.isEmpty_eq_false_iff, List.all_eq_true] at digits
    refine ⟨digits.1, fun c mem => Or.inr ?_⟩
    rw [Char.isAlphanum, digits.2 c mem, Bool.or_true]
  simp only [threshold?] at level
  split at level
  · split at level
    · next digits =>
      obtain ⟨_, alphanumeric⟩ := byNumber digits
      exact ⟨List.cons_ne_nil _ _, List.forall_mem_cons.mpr ⟨Or.inl rfl, alphanumeric⟩⟩
    · exact byName level
  · split at level
    · next digits => exact byNumber digits
    · exact byName level

/-- A character of a level ends no word and is not blank. -/
theorem plain_of_isAlphanum {c : Char} (alphanumeric : c = '+' ∨ c.isAlphanum = true) :
    Text.isBlank c = false ∧ c ≠ '=' ∧ c ≠ '[' := by
  rcases alphanumeric with rfl | alphanumeric
  · decide
  · exact Text.forall_ascii
      (p := fun c => c.isAlphanum = true → Text.isBlank c = false ∧ c ≠ '=' ∧ c ≠ '[')
      (by decide +kernel) c (Text.ascii_of_isAlphanum alphanumeric) alphanumeric

/-- A level that is accepted as a directive is one for all targets. -/
theorem parse?_level {cs : List Char} {t : Threshold} (level : threshold? cs = some t)
    (accepted : (parse? cs).isSome = true) : parse? cs = some { threshold := t } := by
  obtain ⟨nonempty, alphanumeric⟩ := isAlphanum_of_threshold? level
  obtain ⟨first, rest, rfl⟩ := List.exists_cons_of_ne_nil nonempty
  have plain : ∀ c ∈ first :: rest, Text.isBlank c = false ∧ c ≠ '=' ∧ c ≠ '[' := fun c mem =>
    plain_of_isAlphanum (alphanumeric c mem)
  have ordinary : ∀ c ∈ rest, c ≠ '=' ∧ c ≠ '[' := fun c mem =>
    (plain c (List.mem_cons_of_mem first mem)).2
  have word := run_word (first :: rest) {} 0 ordinary 1 []
  have trimmed : Text.trimChars (first :: rest) = first :: rest :=
    Text.trimChars_of_not_isBlank fun c mem => (plain c mem).1
  rw [List.append_nil] at word
  rw [parse?, trimmed, run, step, if_neg (plain first List.mem_cons_self).2.2] at accepted ⊢
  by_cases begins : mayBegin first = true
  · simp only [if_pos begins, Nat.zero_add, word, run, finish, List.drop_zero, level]
  · rw [if_neg begins] at accepted
    cases accepted

end Directive

end LogFilter

end Egress
