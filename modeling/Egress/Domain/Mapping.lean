import Egress.Domain.MappingTable

/-!
# Mapping the characters of a domain name

Before a domain name is looked at, each of its characters is replaced by a preferred form (letters
become lower-case, compatibility forms become ordinary ones), dropped (the soft hyphen), refused or
left as it is. ASCII needs no table.
-/

namespace Egress.Domain

/-- Code points `first, first + step, …, last` that are replaced: the code point `first + d` by the
list `image` with `d` added to its one element, or by `image` itself if it is longer. -/
structure Replacement where
  first : Nat
  last : Nat
  step : Nat
  image : List Nat

namespace Replacement

/-- Reads an entry `a-b/s>c` or `a>c.d.e`. -/
def read (entry : List Char) : Replacement :=
  let image := ((entry.dropWhile (· != '>')).drop 1).splitOn '.' |>.map Text.hexNumber
  let source := entry.takeWhile (· != '>')
  let range := Text.CodeRange.read (source.takeWhile (· != '/'))
  match (source.dropWhile (· != '/')).drop 1 with
  | [] => ⟨range.first, range.last, 1, image⟩
  | step => ⟨range.first, range.last, Text.hexNumber step, image⟩

def holds (r : Replacement) (n : Nat) : Bool :=
  decide (r.first ≤ n) && decide (n ≤ r.last) && (n - r.first) % r.step == 0

def apply (r : Replacement) (n : Nat) : List Char :=
  match r.image with
  | [c] => [Char.ofNat (c + (n - r.first))]
  | cs => cs.map Char.ofNat

end Replacement

def replacements : List Replacement :=
  (Text.entriesOf replacementEntries).map Replacement.read

/-- What the mapping does with a character: the characters it leaves, or none if it is refused. -/
def mapChar? (c : Char) : Option (List Char) :=
  if c.toNat < 128 then
    some [if 'A' ≤ c ∧ c ≤ 'Z' then Char.ofNat (c.toNat + 32) else c]
  else if Text.inRanges refusedRanges c then none
  else if Text.inRanges droppedRanges c then some []
  else
    match replacements.find? (fun r => r.holds c.toNat) with
    | some r => some (r.apply c.toNat)
    | none => some [c]

def mapChars? : List Char → Option (List Char)
  | [] => some []
  | c :: rest =>
    match mapChar? c with
    | none => none
    | some ds => (mapChars? rest).map (ds ++ ·)

end Egress.Domain
