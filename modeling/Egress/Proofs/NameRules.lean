import Egress.Bypass.Rule

/-!
# Rules that are names

A rule that is a name is decided by comparing the ends of texts, with a dot glued in front. Read by
labels, the parts of a name between its dots, the same rule compares lists: a plain name covers the
hosts whose labels end in its own, and a name behind `*.` covers those that have further labels in
front. No text is excluded: labels may be empty, and a star elsewhere is a character as any other.
-/

namespace Egress.Bypass

def labels (name : String) : List String :=
  (name.toList.splitOn '.').map String.ofList

theorem labels_ne_nil (name : String) : labels name ≠ [] := by
  simp [labels, List.splitOn_ne_nil]

theorem intercalate_labels (name : String) : ".".intercalate (labels name) = name := by
  rw [← String.toList_inj, String.toList_intercalate, labels, List.map_map]
  have same : String.toList ∘ String.ofList = id := funext fun cs => String.toList_ofList
  rw [same, List.map_id]
  exact List.intercalate_splitOn '.'

theorem labels_injective {a b : String} (h : labels a = labels b) : a = b := by
  rw [← intercalate_labels a, h, intercalate_labels b]

theorem labels_append_dot (sub name : String) :
    labels (sub ++ "." ++ name) = labels sub ++ labels name := by
  have split : (sub ++ "." ++ name).toList = sub.toList ++ '.' :: name.toList := by simp
  rw [labels, split, List.splitOn_append_cons_self, List.map_append]
  rfl

/-- A text ends in a name after a dot exactly if its labels end in those of the name and are
more. -/
theorem labels_suffix_iff (host name : String) :
    (∃ sub, host = sub ++ "." ++ name) ↔
      labels name <:+ labels host ∧ labels name ≠ labels host := by
  constructor
  · rintro ⟨sub, rfl⟩
    rw [labels_append_dot]
    refine ⟨List.suffix_append _ _, ?_⟩
    intro same
    exact labels_ne_nil sub (List.append_left_eq_self.mp same.symm)
  · rintro ⟨⟨front, hfront⟩, different⟩
    have front_ne : front ≠ [] := by
      rintro rfl
      exact different hfront
    refine ⟨".".intercalate front, ?_⟩
    calc host = ".".intercalate (front ++ labels name) := by rw [hfront, intercalate_labels]
      _ = ".".intercalate front ++ "." ++ ".".intercalate (labels name) :=
        String.intercalate_append_of_ne_nil front_ne (labels_ne_nil name)
      _ = ".".intercalate front ++ "." ++ name := by rw [intercalate_labels]

theorem labels_suffix_or_eq_iff (host name : String) :
    (host = name ∨ ∃ sub, host = sub ++ "." ++ name) ↔ labels name <:+ labels host := by
  rw [labels_suffix_iff]
  constructor
  · rintro (rfl | ⟨suffix, _⟩)
    · exact List.suffix_refl _
    · exact suffix
  · intro suffix
    by_cases same : labels name = labels host
    · exact Or.inl (labels_injective same.symm)
    · exact Or.inr ⟨suffix, same⟩

theorem endsWith_iff (s suffix : String) : endsWith s suffix = true ↔ ∃ sub, s = sub ++ suffix := by
  rw [endsWith, List.isSuffixOf_iff_suffix]
  constructor
  · rintro ⟨sub, h⟩
    refine ⟨String.ofList sub, ?_⟩
    rw [← String.toList_inj, String.toList_append, String.toList_ofList, h]
  · rintro ⟨sub, rfl⟩
    exact ⟨sub.toList, (String.toList_append).symm⟩

/-- The suffix that a rule looks for is the name with a dot glued in front. -/
theorem ofList_dot_cons (name : String) : String.ofList ('.' :: name.toList) = "." ++ name := by
  rw [← String.toList_inj]
  simp

theorem endsWith_dotted_iff (host name : String) :
    endsWith host (String.ofList ('.' :: name.toList)) = true ↔
      ∃ sub, host = sub ++ "." ++ name := by
  rw [endsWith_iff, ofList_dot_cons]
  simp only [String.append_assoc]

theorem Shape.classify_name {text : String} (own : text ∉ ownNames)
    (unslashed : '/' ∉ text.toList) : Shape.classify text = (Shape.ofName text, none) := by
  rw [← isLoopback_eq_false_iff] at own
  simp [Shape.classify, own, unslashed]

theorem Shape.ofName_wildcard (name : String) :
    Shape.ofName ("*." ++ name) = .wildcard (String.ofList ('.' :: name.toList)) := by
  simp [Shape.ofName]

theorem Shape.ofName_bare {text : String} (plain : ∀ name, text ≠ "*." ++ name) :
    Shape.ofName text = .bare (String.ofList ('.' :: text.toList)) := by
  unfold Shape.ofName
  split
  · next domain h =>
    refine absurd ?_ (plain (String.ofList domain))
    rw [← String.toList_inj, h]
    simp
  · rfl

theorem isLoopback_iff (text : String) : isLoopback text = true ↔ text ∈ ownNames := by
  rw [← Bool.not_eq_false, isLoopback_eq_false_iff, Decidable.not_not]

/-- A name of the own machine covers all of its names, and nothing else. -/
theorem covers_own_iff {text : String} (own : text ∈ ownNames) (d : Destination) :
    (Rule.ofText text).covers d = true ↔ d.host ∈ ownNames := by
  have shape : (Rule.ofText text).shape = .loopback := by
    rw [Rule.ofText, Shape.classify, (isLoopback_iff text).mpr own]
    rfl
  rw [Rule.covers, shape]
  exact isLoopback_iff d.host

theorem plain_of_head {text : String} (starless : text.toList.head? ≠ some '*') (name : String) :
    text ≠ "*." ++ name := by
  rintro rfl
  exact starless (by simp)

/-- A name behind `*.` covers the hosts that end in it after a dot. -/
theorem covers_wildcard_iff {name : String} (unslashed : '/' ∉ name.toList) (d : Destination) :
    (Rule.ofText ("*." ++ name)).covers d = true ↔ ∃ sub, d.host = sub ++ "." ++ name := by
  have own : "*." ++ name ∉ ownNames := by
    intro mem
    have starless : ∀ own ∈ ownNames, own.toList.head? ≠ some '*' := by decide
    exact starless _ mem (by simp)
  have shape : (Rule.ofText ("*." ++ name)).shape =
      .wildcard (String.ofList ('.' :: name.toList)) := by
    rw [← Shape.ofName_wildcard, Rule.ofText, Shape.classify_name own (by simpa using unslashed)]
  rw [Rule.covers, shape]
  exact endsWith_dotted_iff d.host name

/-- A plain name covers itself and the hosts that end in it after a dot. -/
theorem covers_bare_iff {name : String} (own : name ∉ ownNames)
    (unslashed : '/' ∉ name.toList) (plain : ∀ rest, name ≠ "*." ++ rest) (d : Destination) :
    (Rule.ofText name).covers d = true ↔ d.host = name ∨ ∃ sub, d.host = sub ++ "." ++ name := by
  have shape : (Rule.ofText name).shape = .bare (String.ofList ('.' :: name.toList)) := by
    rw [← Shape.ofName_bare plain, Rule.ofText, Shape.classify_name own unslashed]
  rw [Rule.covers, shape]
  simp only [Bool.or_eq_true, beq_iff_eq, endsWith_dotted_iff]
  rfl

/-- Rules that are names go by whole labels. A plain name covers the hosts whose labels end in its
own; a name behind `*.` covers those that have more labels, and so never the name itself; and the
plain name covers just itself and what the name behind `*.` covers. -/
theorem covers_name_iff_labels (text : String) (d : Destination)
    (own : text ∉ ownNames) (unslashed : '/' ∉ text.toList) :
    ((∀ rest, text ≠ "*." ++ rest) →
      ((Rule.compile text).value.covers d = true ↔ labels text <:+ labels d.host) ∧
      ((Rule.compile text).value.covers d = true ↔
        d.host = text ∨ (Rule.compile ("*." ++ text)).value.covers d = true)) ∧
    (∀ name, text = "*." ++ name →
      ((Rule.compile text).value.covers d = true ↔
        labels name <:+ labels d.host ∧ labels name ≠ labels d.host) ∧
      (d.host = name → (Rule.compile text).value.covers d = false)) := by
  simp only [Rule.compile_value]
  constructor
  · intro plain
    have bare := covers_bare_iff own unslashed plain d
    refine ⟨bare.trans (labels_suffix_or_eq_iff d.host text), ?_⟩
    rw [bare, covers_wildcard_iff unslashed d]
  · rintro name rfl
    have wildcard := (covers_wildcard_iff (by simpa using unslashed) d).trans
      (labels_suffix_iff d.host name)
    refine ⟨wildcard, ?_⟩
    intro itself
    rw [Bool.eq_false_iff, ne_eq, wildcard, itself]
    exact fun h => h.2 rfl

/-- A plain name is not covered by a part of a label. -/
theorem covers_name_iff_labels_part :
    "example.com" ∉ ownNames ∧ '/' ∉ "example.com".toList ∧
      (Rule.compile "example.com").value.covers (.ofHost "notExample.com") = false ∧
      (Rule.compile "example.com").value.covers (.ofHost "a.Example.com") = true := by
  have own : "example.com" ∉ ownNames := by decide
  have unslashed : '/' ∉ "example.com".toList := by decide
  have plain : ∀ rest, "example.com" ≠ "*." ++ rest := by
    intro rest same
    have heads := congrArg (fun s => s.toList.head?) same
    simp at heads
  refine ⟨own, unslashed, ?_, ?_⟩
  · rw [Bool.eq_false_iff, ne_eq,
      ((covers_name_iff_labels "example.com" (.ofHost "notExample.com") own unslashed).1 plain).1]
    decide
  · rw [((covers_name_iff_labels "example.com" (.ofHost "a.Example.com") own unslashed).1 plain).1]
    decide

end Egress.Bypass
