import Egress.Decimal.Binary64

/-!
# Reading a double from free text

The numbers people type: an optional sign, digits with an optional point among or around them, and
an optional exponent; also the words for infinity and for NaN in any letter case. The value is
rounded correctly however many digits there are.
-/

namespace Egress

inductive TypedNumber where
  | finite (x : Binary64)
  | infinite (negative : Bool)
  | nan
  deriving Repr, DecidableEq

namespace TypedNumber

def spanDigits (cs : List Char) : List Char × List Char :=
  (cs.takeWhile Char.isDigit, cs.dropWhile Char.isDigit)

/-- The exponent that follows the digits: nothing, or `e`, an optional sign and digits up to the
end. -/
def readExponent? : List Char → Option Int
  | [] => some 0
  | c :: rest =>
    if c = 'e' ∨ c = 'E' then
      let (negative, ds) := match rest with
        | '-' :: ds => (true, ds)
        | '+' :: ds => (false, ds)
        | ds => (false, ds)
      if ds.isEmpty || !ds.all Char.isDigit then none
      else
        let n : Int := Nat.ofDigitChars 10 ds 0
        some (if negative then -n else n)
    else none

def readUnsigned? (negative : Bool) (cs : List Char) : Option TypedNumber :=
  let (whole, rest) := spanDigits cs
  let (fraction, rest) := match rest with
    | '.' :: rest => spanDigits rest
    | rest => ([], rest)
  if whole.isEmpty && fraction.isEmpty then
    let word := cs.map Char.toLower
    if word = ['i', 'n', 'f'] ∨ word = ['i', 'n', 'f', 'i', 'n', 'i', 't', 'y'] then
      some (.infinite negative)
    else if word = ['n', 'a', 'n'] then some .nan
    else none
  else
    (readExponent? rest).map fun e =>
      let n := Nat.ofDigitChars 10 (whole ++ fraction) 0
      match Binary64.ofDecimal? negative n (e - fraction.length) with
      | some x => .finite x
      | none => .infinite negative

def read? : List Char → Option TypedNumber
  | '-' :: cs => readUnsigned? true cs
  | '+' :: cs => readUnsigned? false cs
  | cs => readUnsigned? false cs

end TypedNumber

end Egress
