import Egress.Load
import Egress.Proofs.EncodedTexts
import Egress.Proofs.JsonRoundTrip

/-!
# Payload files

A payload that is written to a file is loaded from it as it was, so that the file describes the same
routing, and writing it once more gives the same bytes. Payloads with doubles or with too many
containers around one another are not covered: the latter cannot be loaded at all.
-/

namespace Egress.Payload

open Json

/-- The text of a payload file is read back as the payload with its members in order. -/
theorem read_fileBytes {v : Json} (plain : IsPlain fileRoom v) :
    read (.file (fileBytes v)) = .ok v.ordered := by
  have text : Place.text (.file (fileBytes v)) = .ok (fileText v) := by
    rw [Place.text, fileBytes, Text.Utf8.decode_encode]
    rfl
  have value : ofText (fileText v) = .ok v.ordered := by
    rw [ofText, fileText, parse_pretty plain]
    rfl
  rw [read, text]
  exact value

/-- Writing and loading agree. A payload whose numbers are integers of 64 bits, whose containers
nest less than 128 deep and whose objects have their members in order is read from its file as it
was and is loaded as its own snapshot, and what is read makes up the same file again. -/
theorem file_agrees {v : Json} {depth : Nat} (plain : IsPlain depth v) (shallow : depth < 128)
    (inOrder : InOrder v) :
    read (.file (fileBytes v)) = .ok v ∧
      load (.file (fileBytes v)) = .ok (hydrate v) ∧
      ∀ w, read (.file (fileBytes v)) = .ok w → fileBytes w = fileBytes v := by
  have back : read (.file (fileBytes v)) = .ok v := by
    rw [read_fileBytes (plain.mono (show depth ≤ fileRoom from Nat.le_of_lt_succ shallow)),
      inOrder.ordered_eq]
  refine ⟨back, ?_, ?_⟩
  · rw [load, back]
    rfl
  · intro w read
    have same : v = w := Except.ok.inj (back.symm.trans read)
    rw [same]

/-- A value with the least and the greatest integer, an empty container, and a key and a text full
of characters that are escaped or take several bytes. -/
def borderCase : Json :=
  .object [
    ("", .array [.number (.integer (-0x8000000000000000)), .number (.integer 0xFFFFFFFFFFFFFFFF)]),
    ("a\n\"", .object []),
    ("é", .string "\x01\\/\t😀")]

theorem file_agrees_borderCase :
    IsPlain 2 borderCase ∧ InOrder borderCase ∧
      read (.file (fileBytes borderCase)) = .ok borderCase ∧
      load (.file (fileBytes borderCase)) = .ok (hydrate borderCase) := by
  have plain : IsPlain 2 borderCase := by
    refine .object fun m mem => ?_
    simp only [List.mem_cons, List.not_mem_nil, or_false] at mem
    rcases mem with rfl | rfl | rfl
    · refine .array fun v mem => ?_
      simp only [List.mem_cons, List.not_mem_nil, or_false] at mem
      rcases mem with rfl | rfl
      · exact .integer (by decide) (by decide)
      · exact .integer (by decide) (by decide)
    · exact .object fun m mem => by cases mem
    · exact .string _
  have inOrder : InOrder borderCase := by
    refine .object (by decide) fun m mem => ?_
    simp only [List.mem_cons, List.not_mem_nil, or_false] at mem
    rcases mem with rfl | rfl | rfl
    · refine .array fun v mem => ?_
      simp only [List.mem_cons, List.not_mem_nil, or_false] at mem
      rcases mem with rfl | rfl <;> exact .number _
    · exact .object .nil fun m mem => by cases mem
    · exact .string _
  have agrees := file_agrees plain (by decide) inOrder
  exact ⟨plain, inOrder, agrees.1, agrees.2.1⟩

end Egress.Payload
