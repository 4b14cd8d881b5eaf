import Egress.Domain.CompositionTable

/-!
# Composed form

The canonical composed form of text: every composed character is taken apart, the marks that follow
a base character are sorted by their combining class, and then marks are put together with their
base again where a composed character exists. Equivalent texts have the same composed form. ASCII
text is its own composed form and needs no table.
-/

namespace Egress.Domain

/-- An entry `a-b>c.d`: a range and the numbers given to it. -/
def readEntry (entry : List Char) : Text.CodeRange × List Nat :=
  (Text.CodeRange.read (entry.takeWhile (· != '>')),
    ((entry.dropWhile (· != '>')).drop 1).splitOn '.' |>.map Text.hexNumber)

/-- The composed characters with their one-step decompositions. -/
def decompositions : List (Nat × List Nat) :=
  (Text.entriesOf decompositionEntries).map fun e =>
    let (r, ns) := readEntry e
    (r.first, ns)

def combiningClasses : List (Text.CodeRange × Nat) :=
  (Text.entriesOf combiningClassEntries).map fun e =>
    let (r, ns) := readEntry e
    (r, ns.headD 0)

/-- The combining class of a character; zero for a base character. -/
def combiningClass (c : Char) : Nat :=
  if c.toNat < 128 then 0
  else
    match combiningClasses.find? (fun e => e.1.holds c.toNat) with
    | some e => e.2
    | none => 0

def syllableBase : Nat := 0xAC00

/-- The parts of a Hangul syllable: a leading consonant, a vowel, and perhaps a trailing
consonant. -/
def syllableParts (n : Nat) : List Char :=
  let index := n - syllableBase
  let trailing := index % 28
  [Char.ofNat (0x1100 + index / 588), Char.ofNat (0x1161 + index % 588 / 28)] ++
    (if trailing = 0 then [] else [Char.ofNat (0x11A7 + trailing)])

def isSyllable (n : Nat) : Bool := decide (0xAC00 ≤ n) && decide (n ≤ 0xD7A3)

/-- The full decomposition of a character. No character needs more than four steps. -/
def decomposeChar : Nat → Char → List Char
  | 0, c => [c]
  | fuel + 1, c =>
    if c.toNat < 128 then [c]
    else if isSyllable c.toNat then syllableParts c.toNat
    else
      match decompositions.find? (fun e => e.1 == c.toNat) with
      | some e => e.2.flatMap (fun n => decomposeChar fuel (Char.ofNat n))
      | none => [c]

/-- Puts a character in front of sorted text, behind the marks of a lower class that follow. -/
def placeMark (c : Char) : List Char → List Char
  | [] => [c]
  | d :: rest =>
    if combiningClass d ≠ 0 ∧ combiningClass d < combiningClass c then d :: placeMark c rest
    else c :: d :: rest

/-- Sorts the marks after each base character by their class, keeping the order of equals. -/
def sortMarks (cs : List Char) : List Char :=
  cs.foldr placeMark []

def composePair? (a b : Char) : Option Char :=
  let m := a.toNat
  let n := b.toNat
  if 0x1100 ≤ m ∧ m ≤ 0x1112 ∧ 0x1161 ≤ n ∧ n ≤ 0x1175 then
    some (Char.ofNat (syllableBase + ((m - 0x1100) * 21 + (n - 0x1161)) * 28))
  else if isSyllable m ∧ (m - syllableBase) % 28 = 0 ∧ 0x11A8 ≤ n ∧ n ≤ 0x11C2 then
    some (Char.ofNat (m + (n - 0x11A7)))
  else
    match decompositions.find? (fun e => e.2 == [m, n]) with
    | some e => if compositionExclusions.any (·.holds e.1) then none else some (Char.ofNat e.1)
    | none => none

/-- Composes what follows a base character. `marks` are the marks since then that did not compose,
nearest first; a mark composes unless one of at least its class stands in between. -/
def composeAfter (base : Char) (marks : List Char) : List Char → List Char
  | [] => base :: marks.reverse
  | c :: rest =>
    let free := match marks with
      | [] => true
      | m :: _ => decide (combiningClass m < combiningClass c)
    match if free then composePair? base c else none with
    | some d => composeAfter d marks rest
    | none =>
      if combiningClass c = 0 then base :: (marks.reverse ++ composeAfter c [] rest)
      else composeAfter base (c :: marks) rest

/-- Composes text; marks in front of the first base character stay. -/
def compose : List Char → List Char
  | [] => []
  | c :: rest => if combiningClass c = 0 then composeAfter c [] rest else c :: compose rest

def composed (cs : List Char) : List Char :=
  if cs.all (fun c => decide (c.toNat < 128)) then cs
  else compose (sortMarks (cs.flatMap (decomposeChar 5)))

end Egress.Domain
