import Egress.Decimal.Binary64

/-!
# Shortest decimal text of a double

The text of a double has the fewest significant digits that read back as it, and among those the
digits nearest to it. `Digits` finds them by testing, for one digit, two digits and so on, the two
neighbours of the value on the decimal grid against the interval of numbers that round to it.
`Layout` then says how digits become text.
-/

namespace Egress.Binary64

/-- The least and the greatest number that round to `n` units, in quarters of a unit, and whether
these two do so themselves. Below a power of two the neighbour is only half as far away. -/
structure Interval where
  low : Nat
  high : Nat
  closed : Bool

namespace Interval

def around (n : Nat) : Interval :=
  let s := spacing n
  let below := if n = 0x10000000000000 * s ∧ 1 < s then s else 2 * s
  ⟨4 * n - below, 4 * n + 2 * s, n / s % 2 == 0⟩

def holds (i : Interval) (a b : Nat) : Bool :=
  if i.closed then decide (i.low * b ≤ a) && decide (a ≤ i.high * b)
  else decide (i.low * b < a) && decide (a < i.high * b)

end Interval

/-- Significant decimal digits as a number, with the power of ten that it is multiplied by. -/
structure Digits where
  digits : Nat
  exponent : Int
  deriving Repr, DecidableEq

namespace Digits

def power (e : Int) : Nat × Nat :=
  if 0 ≤ e then (Nat.pow 10 e.toNat, 1) else (1, Nat.pow 10 (-e).toNat)

/-- The exponent of the leading digit of a positive number of units. -/
def leading (units : Nat) : Int :=
  ((Nat.toDigits 10 (units * Nat.pow 10 400 / one)).length : Int) - 401

/-- Of the two multiples of `10 ^ e` next to `units`, the nearest one that rounds to `units`. -/
def onGrid? (units : Nat) (e : Int) : Option Digits :=
  let i := Interval.around units
  let (p, q) := power e
  -- a multiple `d` of the grid is `4 * d * p * one / q` quarters of a unit
  let below := units * q / (p * one)
  let fits (d : Nat) : Bool := i.holds (4 * d * p * one) q
  let distance (d : Nat) : Nat :=
    let a := d * p * one
    let b := units * q
    if a ≤ b then b - a else a - b
  if fits below then
    if fits (below + 1) then
      if distance (below + 1) < distance below then some ⟨below + 1, e⟩
      else if distance (below + 1) = distance below ∧ below % 2 = 1 then some ⟨below + 1, e⟩
      else some ⟨below, e⟩
    else some ⟨below, e⟩
  else if fits (below + 1) then some ⟨below + 1, e⟩
  else none

/-- The digits on the coarsest grid that has a hit, from the given exponent down. -/
def search (units : Nat) (e : Int) : Nat → Digits
  | 0 => ⟨units * (power e).2 / ((power e).1 * one), e⟩
  | fuel + 1 =>
    match onGrid? units e with
    | some d => d
    | none => search units (e - 1) fuel

/-- The shortest digits of a positive number of units; seventeen always suffice. -/
def shortest (units : Nat) : Digits :=
  search units (leading units) 17

end Digits

structure Layout where
  /-- The least exponent of the leading digit that is written without a power of ten. -/
  leastPlain : Int
  /-- The greatest exponent of the leading digit that is written without a power of ten. -/
  greatestPlain : Int
  /-- The sign written before an exponent that is not negative. -/
  plus : List Char

/-- Positional from `0.00001` to below `10 ^ 16`, and with a signed exponent outside. -/
def plainLayout : Layout := ⟨-5, 15, ['+']⟩

def dropFinalZeros (cs : List Char) : List Char :=
  (cs.reverse.dropWhile (· == '0')).reverse

/-- The text of digits `ds`, the first of which stands for `10 ^ e`. A whole number ends in `.0`
when written positionally. -/
def Layout.render (l : Layout) (ds : List Char) (e : Int) : List Char :=
  if l.leastPlain ≤ e ∧ e ≤ l.greatestPlain then
    if e < 0 then '0' :: '.' :: (List.replicate (-e - 1).toNat '0' ++ ds)
    else
      let n := e.toNat + 1
      let whole := ds.take n ++ List.replicate (n - ds.length) '0'
      let fraction := ds.drop n
      whole ++ '.' :: (if fraction.isEmpty then ['0'] else fraction)
  else
    let exponent :=
      if e < 0 then '-' :: Nat.toDigits 10 e.natAbs else l.plus ++ Nat.toDigits 10 e.natAbs
    match ds with
    | [] => []
    | d :: more => (if more.isEmpty then [d] else d :: '.' :: more) ++ 'e' :: exponent

def magnitudeText (units : Nat) : List Char :=
  if units = 0 then ['0', '.', '0']
  else
    let d := Digits.shortest units
    let ds := Nat.toDigits 10 d.digits
    plainLayout.render (dropFinalZeros ds) (d.exponent + ds.length - 1)

def text (x : Binary64) : List Char :=
  if x.negative then '-' :: magnitudeText x.units else magnitudeText x.units

end Egress.Binary64
