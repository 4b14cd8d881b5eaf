/-!
# Finite binary floating-point numbers

A finite double is a sign and a magnitude that counts the smallest positive double `2 ^ (-1074)`.
In this unit every magnitude is a natural number with at most 53 significant binary digits, and
every operation is exact arithmetic on natural numbers followed by one rounding, to the nearest
representable number of units and in a tie to the one with an even last digit.

Infinities and NaN are no values of this type: an operation whose result would be infinite gives
`none`.
-/

namespace Egress

/-- A finite double: a sign and a magnitude in units of `2 ^ (-1074)`. -/
structure Binary64 where
  negative : Bool
  units : Nat
  deriving Repr, DecidableEq

namespace Binary64

def one : Nat := Nat.pow 2 1074

/-- The number of units that no finite double reaches. -/
def bound : Nat := Nat.pow 2 2098

/-- The distance between neighbouring magnitudes near `n` units: one for up to 53 binary digits, and
then doubling with every digit more. -/
def spacing (n : Nat) : Nat :=
  Nat.pow 2 (Nat.log2 n + 1 - 53)

/-- The natural number nearest to `num / den`, in a tie the even one. -/
def nearest (num den : Nat) : Nat :=
  let q := num / den
  let r := num % den
  if 2 * r < den then q
  else if 2 * r = den then q + q % 2
  else q + 1

/-- The representable number of units nearest to `num / den` units, in a tie the one whose last
digit is even. Nothing is lost when rounding reaches the next power of two, which is representable
itself. -/
def roundUnits (num den : Nat) : Nat :=
  let s := spacing (num / den)
  nearest num (den * s) * s

def finite? (n : Nat) : Option Nat :=
  if n < bound then some n else none

def zero (negative : Bool) : Binary64 := ⟨negative, 0⟩

def ofNat? (negative : Bool) (n : Nat) : Option Binary64 :=
  (finite? (roundUnits (n * one) 1)).map (⟨negative, ·⟩)

/-- The double nearest to a word; all words are in range. -/
def ofUInt64 (n : UInt64) : Binary64 :=
  ⟨false, roundUnits (n.toNat * one) 1⟩

/-- The double nearest to an integer; integers of 64 bits are in range. -/
def ofInt? (n : Int) : Option Binary64 :=
  ofNat? (decide (n < 0)) n.natAbs

/-- The double nearest to `n * 10 ^ e`. Beyond exponents that certainly leave the range nothing is
computed: such a number is zero or out of range. -/
def ofDecimal? (negative : Bool) (n : Nat) (e : Int) : Option Binary64 :=
  if n = 0 then some (zero negative)
  else if 0 ≤ e then
    if 400 ≤ e then none
    else (finite? (roundUnits (n * Nat.pow 10 e.toNat * one) 1)).map (⟨negative, ·⟩)
  else if e + Nat.log2 n + 402 < 0 then some (zero negative)
  else (finite? (roundUnits (n * one) (Nat.pow 10 (-e).toNat))).map (⟨negative, ·⟩)

def mulUnits (a b : Nat) : Nat :=
  roundUnits (a * b) one

def divUnits (a b : Nat) : Nat :=
  roundUnits (a * one) b

def whole (x : Binary64) : Nat :=
  x.units / one

end Binary64

end Egress
