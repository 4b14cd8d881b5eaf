import Egress.Proofs.LowerCase
import Egress.Proofs.NameRules

/-!
# Subdomains of a host

A name that covers a host is meant to cover the subdomains of this host. Rules look at hosts in
lower case, so this asks whether a host is written the same behind a further label. It is, but for
one letter: a `Σ` that the host begins with, but for characters that do not count, becomes `ς`
instead of `σ` if the label in front ends in a letter and no letter follows, for dots do not part
words. A rule that reaches back to this letter does not cover the subdomain, and all others do.

What stands in front of a text enters its lower case only by one bit, whether a letter is met on the
way back, and this bit is used up by the first character that counts. All statements on lower case
follow this.
-/

namespace Egress

namespace Text

theorem isCaseIgnorable_dot : isCaseIgnorable '.' = true := by
  decide +kernel

theorem not_isCaseIgnorable_sigma : isCaseIgnorable 'Σ' = false := by
  decide +kernel

theorem meetsCased_cons_of_ignorable {c : Char} (ignorable : isCaseIgnorable c = true)
    (cs : List Char) : meetsCased (c :: cs) = meetsCased cs := by
  rw [meetsCased, List.dropWhile_cons_of_pos ignorable, meetsCased]

theorem meetsCased_cons_of_not_ignorable {c : Char} (counts : isCaseIgnorable c = false)
    (cs : List Char) : meetsCased (c :: cs) = isCased c := by
  rw [meetsCased, List.dropWhile_cons_of_neg (by simp [counts])]

theorem meetsCased_cons_congr {before before' : List Char}
    (same : meetsCased before = meetsCased before') (c : Char) :
    meetsCased (c :: before) = meetsCased (c :: before') := by
  cases ignorable : isCaseIgnorable c with
  | true =>
    rw [meetsCased_cons_of_ignorable ignorable, meetsCased_cons_of_ignorable ignorable, same]
  | false =>
    rw [meetsCased_cons_of_not_ignorable ignorable, meetsCased_cons_of_not_ignorable ignorable]

theorem lowerForm_congr {before before' : List Char}
    (same : meetsCased before = meetsCased before') (c : Char) (after : List Char) :
    lowerForm before c after = lowerForm before' c after := by
  rw [lowerForm, endsWord, same, lowerForm, endsWord]

/-- All that counts of what stands in front of a text is whether a letter is met there. -/
theorem lowercaseAfter_congr {before before' : List Char}
    (same : meetsCased before = meetsCased before') (cs : List Char) :
    lowercaseAfter before cs = lowercaseAfter before' cs := by
  induction cs generalizing before before' with
  | nil => rfl
  | cons c cs ih =>
    rw [lowercaseAfter_cons, lowercaseAfter_cons, lowerForm_congr same,
      ih (meetsCased_cons_congr same c)]

theorem lowerForm_of_ne_sigma {c : Char} (other : c ≠ 'Σ') (before after : List Char) :
    lowerForm before c after = lowerChar c :=
  if_neg other

/-- The form of `Σ` if no letter follows: it ends a word exactly if a letter is met in front. -/
theorem lowerForm_sigma {after : List Char} (stops : meetsCased after = false)
    (before : List Char) :
    lowerForm before 'Σ' after = [if meetsCased before = true then 'ς' else 'σ'] := by
  rw [lowerForm, if_pos rfl, endsWord, stops, Bool.not_false, Bool.and_true]

/-- The form of `Σ` if a letter follows. -/
theorem lowerForm_sigma_inside {after : List Char} (goesOn : meetsCased after = true)
    (before : List Char) : lowerForm before 'Σ' after = ['σ'] := by
  rw [lowerForm, if_pos rfl, endsWord, goesOn, Bool.not_true, Bool.and_false]
  rfl

/-- A text begins with a `Σ`, but for characters that do not count, and no letter follows in the
word. Behind the `Σ` comes `rest`. -/
def OpensWithSigma (cs rest : List Char) : Prop :=
  ∃ marks, cs = marks ++ 'Σ' :: rest ∧ (∀ c ∈ marks, isCaseIgnorable c = true) ∧
    meetsCased rest = false

theorem OpensWithSigma.cons {c : Char} {cs rest : List Char} (ignorable : isCaseIgnorable c = true)
    (opens : OpensWithSigma cs rest) : OpensWithSigma (c :: cs) rest := by
  obtain ⟨marks, rfl, marks_ignorable, stops⟩ := opens
  exact ⟨c :: marks, rfl, List.forall_mem_cons.mpr ⟨ignorable, marks_ignorable⟩, stops⟩

/-- A text that does not begin with such a `Σ` has one lower case, wherever it stands. -/
theorem lowercaseAfter_of_not_opens {cs : List Char} (plain : ∀ rest, ¬ OpensWithSigma cs rest)
    (before before' : List Char) : lowercaseAfter before cs = lowercaseAfter before' cs := by
  induction cs generalizing before before' with
  | nil => rfl
  | cons c cs ih =>
    have form : lowerForm before c cs = lowerForm before' c cs := by
      by_cases sigma : c = 'Σ'
      · subst sigma
        have goesOn : meetsCased cs = true := by
          by_contra stops
          exact plain cs ⟨[], rfl, List.forall_mem_nil _, Bool.eq_false_iff.mpr stops⟩
        rw [lowerForm_sigma_inside goesOn, lowerForm_sigma_inside goesOn]
      · rw [lowerForm_of_ne_sigma sigma, lowerForm_of_ne_sigma sigma]
    rw [lowercaseAfter_cons, lowercaseAfter_cons, form]
    cases ignorable : isCaseIgnorable c with
    | true => rw [ih (fun rest opens => plain rest (opens.cons ignorable)) (c :: before)]
    | false =>
      have same : meetsCased (c :: before) = meetsCased (c :: before') := by
        rw [meetsCased_cons_of_not_ignorable ignorable, meetsCased_cons_of_not_ignorable ignorable]
      rw [lowercaseAfter_congr same]

theorem length_lowerForm (before before' after after' : List Char) (c : Char) :
    (lowerForm before c after).length = (lowerForm before' c after').length := by
  by_cases sigma : c = 'Σ'
  · rw [lowerForm, if_pos sigma, lowerForm, if_pos sigma, List.length_singleton,
      List.length_singleton]
  · rw [lowerForm_of_ne_sigma sigma, lowerForm_of_ne_sigma sigma]

theorem length_lowercaseAfter (before before' cs : List Char) :
    (lowercaseAfter before cs).length = (lowercaseAfter before' cs).length := by
  induction cs generalizing before before' with
  | nil => rfl
  | cons c cs ih =>
    rw [lowercaseAfter_cons, lowercaseAfter_cons, List.length_append, List.length_append,
      length_lowerForm before before' cs cs, ih]

/-- In the lower case of a text that begins with such a `Σ`, only this letter depends on what stands
in front. -/
theorem OpensWithSigma.exists_lowercaseAfter {cs rest : List Char}
    (opens : OpensWithSigma cs rest) :
    ∃ front back, back.length = (lowercaseChars rest).length ∧
      ∀ before, lowercaseAfter before cs =
        front ++ (if meetsCased before = true then 'ς' else 'σ') :: back := by
  obtain ⟨marks, rfl, ignorable, stops⟩ := opens
  induction marks with
  | nil =>
    refine ⟨[], lowercaseAfter ['Σ'] rest, length_lowercaseAfter _ _ _, ?_⟩
    intro before
    have same : meetsCased ('Σ' :: before) = meetsCased ['Σ'] := by
      rw [meetsCased_cons_of_not_ignorable not_isCaseIgnorable_sigma,
        meetsCased_cons_of_not_ignorable not_isCaseIgnorable_sigma]
    rw [List.nil_append, lowercaseAfter_cons, lowerForm_sigma stops, lowercaseAfter_congr same]
    rfl
  | cons c marks ih =>
    obtain ⟨here, ignorable⟩ := List.forall_mem_cons.mp ignorable
    obtain ⟨front, back, length, form⟩ := ih ignorable
    refine ⟨lowerChar c ++ front, back, length, ?_⟩
    intro before
    have other : c ≠ 'Σ' := by
      rintro rfl
      rw [not_isCaseIgnorable_sigma] at here
      cases here
    rw [List.cons_append, lowercaseAfter_cons, lowerForm_of_ne_sigma other, form,
      meetsCased_cons_of_ignorable here, List.append_assoc]

/-- The lower case of a text behind a label. -/
theorem exists_lowercaseChars_behind_dot (sub cs : List Char) :
    ∃ front, lowercaseChars (sub ++ '.' :: cs) =
      front ++ '.' :: lowercaseAfter ('.' :: sub.reverse) cs := by
  obtain ⟨front, split⟩ := lowercaseAfter_append [] sub ('.' :: cs)
  refine ⟨front, ?_⟩
  rw [lowercaseChars, split, lowercaseAfter_cons, lowerForm_of_caseless isCaseless_dot,
    List.append_nil, List.singleton_append]

end Text

namespace Bypass

open Text

/-- Names have their shape from what is left when own names and slashes are out of the question. -/
theorem Shape.ofName_of_named {text dotted : String}
    (named : (Rule.ofText text).shape = .bare dotted ∨
      (Rule.ofText text).shape = .wildcard dotted) :
    Shape.ofName text = (Rule.ofText text).shape := by
  simp only [Rule.ofText, Shape.classify] at named ⊢
  split at named
  · rcases named with h | h <;> cases h
  · next own =>
    split at named
    · exfalso
      rw [Shape.ofSlashed] at named
      cases block : Block.parse text with
      | error e =>
        rw [block] at named
        rcases named with h | h <;> cases h
      | ok b =>
        rw [block] at named
        rcases named with h | h <;> cases h
    · next unslashed => rw [if_neg own, if_neg unslashed]

/-- What both kinds of rules that are names compare: the end of the host with a text that begins
with a dot. For a plain name a dot in front of the host counts in. -/
theorem covers_iff_suffix {text dotted : String}
    (named : (Rule.ofText text).shape = .bare dotted ∨
      (Rule.ofText text).shape = .wildcard dotted) :
    ∃ pad : List Char, pad <:+ ['.'] ∧
      ∀ d : Destination,
        (Rule.ofText text).covers d = true ↔ dotted.toList <:+ pad ++ d.host.toList := by
  have shape := Shape.ofName_of_named named
  rcases named with bare | wildcard
  · refine ⟨['.'], List.suffix_refl _, ?_⟩
    have glued : dotted.toList = '.' :: text.toList := by
      rw [bare, Shape.ofName] at shape
      split at shape
      · cases shape
      · rw [← Shape.bare.inj shape, String.toList_ofList]
    intro d
    rw [Rule.covers, bare]
    simp only [Bool.or_eq_true, beq_iff_eq, endsWith, List.isSuffixOf_iff_suffix]
    rw [glued, List.singleton_append, List.suffix_cons_iff, List.cons_inj_right, String.toList_inj,
      eq_comm]
    rfl
  · refine ⟨[], List.nil_suffix, ?_⟩
    intro d
    rw [Rule.covers, wildcard]
    simp only [endsWith, List.isSuffixOf_iff_suffix, List.nil_append]

/-- A text with either of two letters at one place ends in a text that does not reach back to it. -/
theorem length_le_of_suffix_of_ne {l front front' back : List Char} {a b : Char} (different : a ≠ b)
    (ends : l <:+ front ++ a :: back) (ends' : l <:+ front' ++ b :: back) :
    l.length ≤ back.length := by
  by_contra long
  have reaches : a :: back <:+ l :=
    List.suffix_of_suffix_length_le (List.suffix_append front _) ends (Nat.lt_of_not_le long)
  have reaches' : b :: back <:+ l :=
    List.suffix_of_suffix_length_le (List.suffix_append front' _) ends' (Nat.lt_of_not_le long)
  have same := (List.suffix_of_suffix_length_le reaches reaches' (Nat.le_refl _)).eq_of_length rfl
  exact different (List.cons.inj same).1

theorem toList_host_ofHost (host : String) :
    (Destination.ofHost host).host.toList = lowercaseChars host.toList :=
  String.toList_ofList

/-- A rule that covers a host covers a subdomain of it that is written the same at its end. -/
theorem suffix_behind_dot {l pad front host : List Char} (padded : pad <:+ ['.'])
    (ends : l <:+ pad ++ host) : l <:+ pad ++ (front ++ '.' :: host) := by
  have inside : pad ++ host <:+ '.' :: host := by
    obtain ⟨rest, dot⟩ := padded
    exact ⟨rest, by rw [← List.append_assoc, dot, List.singleton_append]⟩
  exact ends.trans (inside.trans ((List.suffix_append front _).trans (List.suffix_append pad _)))

/-- The host is written behind the label as it is alone, unless it begins with a `Σ` that the label
makes the end of a word. -/
theorem lowercaseAfter_label {sub host : List Char}
    (kept : ¬ (meetsCased sub.reverse = true ∧ ∃ rest, OpensWithSigma host rest)) :
    lowercaseAfter ('.' :: sub.reverse) host = lowercaseChars host := by
  by_cases met : meetsCased sub.reverse = true
  · exact lowercaseAfter_of_not_opens (fun rest opens => kept ⟨met, rest, opens⟩) _ []
  · apply lowercaseAfter_congr
    rw [meetsCased_cons_of_ignorable isCaseIgnorable_dot, Bool.eq_false_iff.mpr met]
    rfl

/-- The two lower cases of a host that begins with a `Σ`: alone, and behind a label that ends in a
letter. -/
theorem exists_lowercase_sigma {sub host rest : List Char} (met : meetsCased sub.reverse = true)
    (opens : OpensWithSigma host rest) :
    ∃ front back, back.length = (lowercaseChars rest).length ∧
      lowercaseChars host = front ++ 'σ' :: back ∧
      lowercaseAfter ('.' :: sub.reverse) host = front ++ 'ς' :: back := by
  obtain ⟨front, back, length, form⟩ := opens.exists_lowercaseAfter
  refine ⟨front, back, length, form [], ?_⟩
  rw [form, meetsCased_cons_of_ignorable isCaseIgnorable_dot, if_pos met]

/-- A name that covers a host covers a subdomain of it, except that the label in front ends in a
letter, the host begins with a `Σ` that this makes the end of a word, and the rule reaches back to
it. So every subdomain of a host without `Σ` is covered with it. -/
theorem covers_subdomain_iff {text dotted : String}
    (named : (Rule.compile text).value.shape = .bare dotted ∨
      (Rule.compile text).value.shape = .wildcard dotted)
    {host : String} (covered : (Rule.compile text).value.covers (.ofHost host) = true)
    (sub : String) :
    ((Rule.compile text).value.covers (.ofHost (sub ++ "." ++ host)) = true ↔
      ¬ (meetsCased sub.toList.reverse = true ∧
        ∃ rest, OpensWithSigma host.toList rest ∧
          (lowercaseChars rest).length < dotted.toList.length)) ∧
    ('Σ' ∉ host.toList →
      (Rule.compile text).value.covers (.ofHost (sub ++ "." ++ host)) = true) := by
  rw [Rule.compile_value] at named covered ⊢
  obtain ⟨pad, padded, covers_iff⟩ := covers_iff_suffix named
  have behind : (sub ++ "." ++ host).toList = sub.toList ++ '.' :: host.toList := by simp
  obtain ⟨front, split⟩ := exists_lowercaseChars_behind_dot sub.toList host.toList
  rw [covers_iff, toList_host_ofHost] at covered ⊢
  rw [behind, split]
  have kept (notTurned : ¬ (meetsCased sub.toList.reverse = true ∧
      ∃ rest, OpensWithSigma host.toList rest)) :
      dotted.toList <:+
        pad ++ (front ++ '.' :: lowercaseAfter ('.' :: sub.toList.reverse) host.toList) := by
    rw [lowercaseAfter_label notTurned]
    exact suffix_behind_dot padded covered
  refine ⟨⟨?_, ?_⟩, ?_⟩
  · rintro ends ⟨met, rest, opens, reaches⟩
    obtain ⟨start, back, length, alone, turned⟩ := exists_lowercase_sigma met opens
    rw [alone, ← List.append_assoc] at covered
    rw [turned, List.append_cons front, ← List.append_assoc, ← List.append_assoc] at ends
    have short := length_le_of_suffix_of_ne (by decide) covered ends
    omega
  · intro notReached
    by_cases turns : meetsCased sub.toList.reverse = true ∧ ∃ rest, OpensWithSigma host.toList rest
    · obtain ⟨met, rest, opens⟩ := turns
      have short : dotted.toList.length ≤ (lowercaseChars rest).length := by
        by_contra reaches
        exact notReached ⟨met, rest, opens, Nat.lt_of_not_le reaches⟩
      obtain ⟨start, back, length, alone, turned⟩ := exists_lowercase_sigma met opens
      rw [alone, List.append_cons start, ← List.append_assoc] at covered
      have inside : dotted.toList <:+ back :=
        List.suffix_of_suffix_length_le covered (List.suffix_append _ back) (length ▸ short)
      rw [turned, List.append_cons front, List.append_cons start, ← List.append_assoc,
        ← List.append_assoc]
      exact inside.trans (List.suffix_append _ back)
    · exact kept turns
  · intro noSigma
    apply kept
    rintro ⟨_, rest, marks, same, _⟩
    rw [same] at noSigma
    exact noSigma (List.mem_append_right marks List.mem_cons_self)

/-- The `Σ` is out of reach of the rule, and so it does not matter that it is written otherwise
behind the label. -/
theorem covers_subdomain_iff_out_of_reach :
    (Rule.compile "1").value.shape = .bare ".1" ∧
      (Rule.compile "1").value.covers (.ofHost "Σ.1") = true ∧
      (Rule.compile "1").value.covers (.ofHost ("x" ++ "." ++ "Σ.1")) = true := by
  have named : (Rule.compile "1").value.shape = .bare ".1" := by decide +kernel
  have covered : (Rule.compile "1").value.covers (.ofHost "Σ.1") = true := by decide +kernel
  refine ⟨named, covered, (covers_subdomain_iff (.inl named) covered "x").1.mpr ?_⟩
  rintro ⟨_, rest, ⟨marks, same, ignorable, _⟩, reaches⟩
  change ['Σ', '.', '1'] = marks ++ 'Σ' :: rest at same
  cases marks with
  | nil =>
    obtain ⟨-, rfl⟩ := List.cons.inj same
    revert reaches
    decide +kernel
  | cons mark marks =>
    obtain ⟨rfl, -⟩ := List.cons.inj same
    have sigma := ignorable 'Σ' List.mem_cons_self
    rw [not_isCaseIgnorable_sigma] at sigma
    cases sigma

/-- A rule that covers a host and not a subdomain of it: behind the label the host becomes `ς`. -/
theorem subdomain_not_covered :
    (Rule.compile "σ").value.shape = .bare ".σ" ∧
      (Rule.compile "σ").value.covers (.ofHost "Σ") = true ∧
      (Rule.compile "σ").value.covers (.ofHost ("x" ++ "." ++ "Σ")) = false := by
  decide +kernel

end Bypass

end Egress
