import Egress.Domain.DirectionTable

/-!
# Labels written from right to left

As soon as one label of a domain name holds a character written from right to left, every label has
to keep one direction from its first character to its last, so that the order of the labels can be
seen.
-/

namespace Egress.Domain

/-- The bidirectional classes that the rule tells apart. -/
inductive Direction where
  | leftToRight
  | rightToLeft
  | arabicLetter
  | arabicNumber
  | europeanNumber
  | europeanSeparator
  | commonSeparator
  | europeanTerminator
  | otherNeutral
  | boundaryNeutral
  | nonspacingMark
  deriving Repr, DecidableEq

def direction (c : Char) : Direction :=
  if Text.inRanges rightToLeftRanges c then .rightToLeft
  else if Text.inRanges arabicLetterRanges c then .arabicLetter
  else if Text.inRanges arabicNumberRanges c then .arabicNumber
  else if Text.inRanges europeanNumberRanges c then .europeanNumber
  else if Text.inRanges europeanSeparatorRanges c then .europeanSeparator
  else if Text.inRanges commonSeparatorRanges c then .commonSeparator
  else if Text.inRanges europeanTerminatorRanges c then .europeanTerminator
  else if Text.inRanges otherNeutralRanges c then .otherNeutral
  else if Text.inRanges boundaryNeutralRanges c then .boundaryNeutral
  else if Text.inRanges nonspacingMarkRanges c then .nonspacingMark
  else .leftToRight

/-- Whether a character makes its domain name one that is written from right to left. -/
def isRightward (c : Char) : Bool :=
  decide (128 ≤ c.toNat) &&
    (match direction c with
      | .rightToLeft | .arabicLetter | .arabicNumber => true
      | _ => false)

def inRightwardLabel : Direction → Bool
  | .leftToRight => false
  | _ => true

def inLeftwardLabel : Direction → Bool
  | .rightToLeft | .arabicLetter | .arabicNumber => false
  | _ => true

/-- The last class that is no mark. -/
def lastFirm? (ds : List Direction) : Option Direction :=
  (ds.reverse.dropWhile (· == .nonspacingMark)).head?

def keepsDirection (label : List Char) : Bool :=
  let ds := label.map direction
  match ds with
  | [] => true
  | .rightToLeft :: _ | .arabicLetter :: _ =>
    ds.all inRightwardLabel &&
      (match lastFirm? ds with
        | some .rightToLeft | some .arabicLetter => true
        | some .europeanNumber | some .arabicNumber => true
        | _ => false) &&
      !(ds.contains .europeanNumber && ds.contains .arabicNumber)
  | .leftToRight :: _ =>
    ds.all inLeftwardLabel &&
      (match lastFirm? ds with
        | some .leftToRight | some .europeanNumber => true
        | _ => false)
  | _ => false

end Egress.Domain
