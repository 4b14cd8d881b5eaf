import Egress.Proofs.Trimming
import Egress.Proofs.TwoDecisions

/-!
# URLs with blanks around them

Whoever reads a URL takes spaces and controls off both ends of its text, but not every blank is one
of these. So a text whose blanks at the ends are of ASCII is read like the text without them, and
other blanks may matter: a wide space in front leaves no URL at all, and one behind a host spoils
the host, but behind a path it changes nothing that counts.
-/

namespace Egress

namespace Text

/-- The blanks with which a text begins and those with which it ends are all of ASCII. -/
structure HasPlainEnds (cs : List Char) : Prop where
  front : ∀ c ∈ cs.takeWhile isBlank, c.toNat < 128
  back : ∀ c ∈ cs.reverse.takeWhile isBlank, c.toNat < 128

theorem hasPlainEnds_iff (cs : List Char) : HasPlainEnds cs ↔
    (cs.takeWhile isBlank).all (fun c => c.toNat < 128) = true ∧
      (cs.reverse.takeWhile isBlank).all (fun c => c.toNat < 128) = true := by
  simp only [List.all_eq_true, decide_eq_true_eq]
  exact ⟨fun ⟨front, back⟩ => ⟨front, back⟩, fun ⟨front, back⟩ => ⟨front, back⟩⟩

instance (cs : List Char) : Decidable (HasPlainEnds cs) :=
  decidable_of_iff' _ (hasPlainEnds_iff cs)

/-- The end of a line is a blank, and goes with those in front of it. -/
theorem trim_line (text : String) : trim (text ++ "\n") = trim text := by
  have ending : ∀ c ∈ "\n".toList, isBlank c = true := by
    intro c mem
    obtain rfl : c = '\n' := List.mem_singleton.mp mem
    rfl
  rw [trim, trim, String.toList_append, trimChars, dropEnds_append ending, trimChars]

theorem trim_trim (text : String) : trim (trim text) = trim text := by
  rw [trim, trim, String.toList_ofList, trimChars_trimChars]

/-- A text is what is left after trimming, between blanks at its two ends. -/
theorem exists_blanks (cs : List Char) : ∃ front back, cs = front ++ trimChars cs ++ back ∧
    (∀ c ∈ front, isBlank c = true ∧ c ∈ cs.takeWhile isBlank) ∧
    ∀ c ∈ back, isBlank c = true ∧ c ∈ cs.reverse.takeWhile isBlank := by
  have whole : cs.takeWhile isBlank ++ cs.dropWhile isBlank = cs := List.takeWhile_append_dropWhile
  have inner : trimChars cs ++ (cs.dropWhile isBlank).rtakeWhile isBlank = cs.dropWhile isBlank :=
    List.rdropWhile_append_rtakeWhile
  refine ⟨cs.takeWhile isBlank, (cs.dropWhile isBlank).rtakeWhile isBlank, ?_, ?_, ?_⟩
  · rw [List.append_assoc, inner, whole]
  · intro c mem
    exact ⟨List.mem_takeWhile_imp mem, mem⟩
  · intro c mem
    refine ⟨List.mem_rtakeWhile_imp mem, ?_⟩
    have reversed : cs.reverse =
        (cs.dropWhile isBlank).reverse ++ (cs.takeWhile isBlank).reverse := by
      rw [← List.reverse_append, whole]
    have last : c ∈ (cs.dropWhile isBlank).reverse.takeWhile isBlank :=
      List.mem_reverse.mp mem
    rw [reversed, List.takeWhile_append]
    split
    · exact List.mem_append_left _ ((List.takeWhile_prefix _).subset last)
    · exact last

end Text

namespace Url

open Text

/-- The blanks around a text have no part in the URL that is read from it. -/
def IgnoresBlanks (url : String) : Prop :=
  (parse (trim url)).toOption = (parse url).toOption

instance (url : String) : Decidable (IgnoresBlanks url) :=
  inferInstanceAs (Decidable ((parse (trim url)).toOption = (parse url).toOption))

theorem ignoresBlanks_trim (url : String) : IgnoresBlanks (trim url) := by
  rw [IgnoresBlanks, trim_trim]

theorem isEdge_of_isBlank {c : Char} (blank : isBlank c = true) (ascii : c.toNat < 128) :
    isEdge c = true := by
  simp only [isBlank, Bool.or_eq_true, Bool.and_eq_true, decide_eq_true_eq, beq_iff_eq] at blank
  simp only [isEdge, decide_eq_true_eq]
  omega

theorem relevant_trimChars {cs : List Char} (plain : HasPlainEnds cs) :
    relevant (trimChars cs) = relevant cs := by
  obtain ⟨front, back, split, blanks, blanks'⟩ := exists_blanks cs
  have edges : ∀ c ∈ front, isEdge c = true := by
    intro c mem
    exact isEdge_of_isBlank (blanks c mem).1 (plain.front c (blanks c mem).2)
  have edges' : ∀ c ∈ back, isEdge c = true := by
    intro c mem
    exact isEdge_of_isBlank (blanks' c mem).1 (plain.back c (blanks' c mem).2)
  have same : dropLastWhile isEdge (cs.dropWhile isEdge) =
      dropLastWhile isEdge ((trimChars cs).dropWhile isEdge) := by
    rw [split, dropEnds_append edges', List.dropWhile_append_of_pos edges, ← split]
  exact (congrArg (List.filter fun c => !isIgnored c) same).symm

/-- Blanks of ASCII are among what is taken off a URL. -/
theorem ignoresBlanks_of_plain {url : String} (plain : HasPlainEnds url.toList) :
    IgnoresBlanks url := by
  rw [IgnoresBlanks, parse, parse, trim, String.toList_ofList, relevant_trimChars plain]

end Url

/-- The verdict on a URL from which the same is read without its blanks. -/
theorem Config.route_trim (c : Config) {url : String} (ignored : Url.IgnoresBlanks url) :
    (c.route (Text.trim url)).value = (c.route url).value := by
  have alike : Alike c c url (Text.trim url) := by
    refine ⟨rfl, ?_, ?_⟩
    · rw [hostRead?, hostRead?, ignored]
    · intro u u' read read'
      rw [Url.IgnoresBlanks, read, read'] at ignored
      obtain rfl : u' = u := Option.some.inj ignored
      rfl
  rw [route_value, route_value, decide_congr alike fun _ => rfl]

end Egress
