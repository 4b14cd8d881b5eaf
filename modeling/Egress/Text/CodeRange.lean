/-!
# Sets of characters as ranges of code points

Large character classes are kept as a text of hexadecimal ranges such as `300-36f 483 485-487`,
separated by blanks and line ends. This module reads such a text and tests membership. Nothing is
claimed of a text that is not of this form: what is no digit counts as the digit zero.
-/

namespace Egress.Text

def hexValue? (c : Char) : Option Nat :=
  if '0' ≤ c ∧ c ≤ '9' then some (c.toNat - 48)
  else if 'a' ≤ c ∧ c ≤ 'f' then some (c.toNat - 87)
  else if 'A' ≤ c ∧ c ≤ 'F' then some (c.toNat - 55)
  else none

def hexNumber (cs : List Char) : Nat :=
  cs.foldl (fun n c => 16 * n + (hexValue? c).getD 0) 0

/-- The non-empty pieces of a text between spaces and line ends. -/
def entriesOf (s : String) : List (List Char) :=
  (s.toList.splitOnP (fun c => c == ' ' || c == '\n')).filter (fun e => !e.isEmpty)

/-- The code points from `first` to `last`. -/
structure CodeRange where
  first : Nat
  last : Nat
  deriving Repr, DecidableEq

namespace CodeRange

/-- Reads `a-b` as the range from `a` to `b`, and `a` as the range of that one code point. -/
def read (cs : List Char) : CodeRange :=
  match cs.splitOn '-' with
  | [a, b] => ⟨hexNumber a, hexNumber b⟩
  | _ => ⟨hexNumber cs, hexNumber cs⟩

def readAll (s : String) : List CodeRange :=
  (entriesOf s).map read

def holds (r : CodeRange) (n : Nat) : Bool :=
  decide (r.first ≤ n) && decide (n ≤ r.last)

end CodeRange

def inRanges (rs : List CodeRange) (c : Char) : Bool :=
  rs.any (fun r => r.holds c.toNat)

end Egress.Text
