import Egress.Decimal.Binary64
import Egress.Text.CodeRange
import Egress.Toml.Basic

/-!
# TOML numbers, dates and truth values

These values are written without quotation marks, in characters that also end them, so that a whole
word can be judged at once. Integers have 64 bits. A float may not exceed the range of doubles
upwards.
-/

namespace Egress.Toml

/-- Whether underscores stand only between digits, and there is at least one digit; `isDigit` says
what a digit is. -/
def wellGrouped (isDigit : Char → Bool) (cs : List Char) : Bool :=
  (cs.splitOn '_').all fun group => !group.isEmpty && group.all isDigit

def ungrouped (cs : List Char) : List Char :=
  cs.filter (· != '_')

/-- Whether a word is an integer without a sign: more than one digit may not begin with zero. -/
def isPlainInteger (cs : List Char) : Bool :=
  wellGrouped Char.isDigit cs && (cs.head? != some '0' || cs.length == 1)

/-- The sign of a word, true for minus, and what follows it. -/
def splitSign : List Char → Bool × List Char
  | '-' :: cs => (true, cs)
  | '+' :: cs => (false, cs)
  | cs => (false, cs)

/-- The value of digits in base 8 or 2 if all of them are digits there. -/
def smallBase? (base : Nat) (cs : List Char) : Option Nat :=
  let isDigit (c : Char) : Bool := decide ('0' ≤ c) && decide (c.toNat < 48 + base)
  if wellGrouped isDigit cs then some (Nat.ofDigitChars base (ungrouped cs) 0) else none

def hexBase? (cs : List Char) : Option Nat :=
  if wellGrouped (fun c => (Text.hexValue? c).isSome) cs then some (Text.hexNumber (ungrouped cs))
  else none

/-- The integer that a word writes, of any size. -/
def unboundedInteger? : List Char → Option Int
  | '0' :: 'x' :: ds => (hexBase? ds).map Int.ofNat
  | '0' :: 'o' :: ds => (smallBase? 8 ds).map Int.ofNat
  | '0' :: 'b' :: ds => (smallBase? 2 ds).map Int.ofNat
  | cs =>
    let (negative, ds) := splitSign cs
    if isPlainInteger ds then
      let n : Int := Nat.ofDigitChars 10 (ungrouped ds) 0
      some (if negative then -n else n)
    else none

def integer? (cs : List Char) : Option Toml :=
  match unboundedInteger? cs with
  | some n => if -0x8000000000000000 ≤ n ∧ n < 0x8000000000000000 then some (integer n) else none
  | none => none

def isExponentMark (c : Char) : Bool := c == 'e' || c == 'E'

/-- Whether a float is not too great. -/
def inRange (negative : Bool) (whole fraction : List Char) (exponent : Int) : Bool :=
  let n := Nat.ofDigitChars 10 (whole ++ fraction) 0
  negative || (Binary64.ofDecimal? negative n (exponent - fraction.length)).isSome

def exponent? (cs : List Char) : Option Int :=
  let (negative, ds) := splitSign cs
  if wellGrouped Char.isDigit ds then
    let n : Int := Nat.ofDigitChars 10 (ungrouped ds) 0
    some (if negative then -n else n)
  else none

def isDigitFloat (cs : List Char) : Bool :=
  let (negative, ds) := splitSign cs
  let mantissa := ds.takeWhile (fun c => !isExponentMark c)
  let marked := ds.dropWhile (fun c => !isExponentMark c)
  let whole := mantissa.takeWhile (· != '.')
  let dotted := mantissa.dropWhile (· != '.')
  let exponent := if marked.isEmpty then some 0 else exponent? marked.tail
  match exponent with
  | none => false
  | some e =>
    isPlainInteger whole && !(marked.isEmpty && dotted.isEmpty) &&
      (dotted.isEmpty || wellGrouped Char.isDigit dotted.tail) &&
      inRange negative (ungrouped whole) (ungrouped dotted.tail) e

def isSpecialFloat (cs : List Char) : Bool :=
  let word := (splitSign cs).2
  word == "inf".toList || word == "nan".toList

def twoDigits? (a b : Char) : Option Nat :=
  if a.isDigit && b.isDigit then some (Nat.ofDigitChars 10 [a, b] 0) else none

def twoWithin (low high : Nat) (a b : Char) : Bool :=
  (twoDigits? a b).any fun n => decide (low ≤ n) && decide (n ≤ high)

def daysIn (year month : Nat) : Nat :=
  if month = 2 then
    if year % 4 = 0 ∧ (year % 100 ≠ 0 ∨ year % 400 = 0) then 29 else 28
  else if month = 4 ∨ month = 6 ∨ month = 9 ∨ month = 11 then 30
  else 31

def isDate : List Char → Bool
  | [a, b, c, d, '-', e, f, '-', g, h] =>
    [a, b, c, d].all Char.isDigit &&
      match twoDigits? e f, twoDigits? g h with
      | some month, some day =>
        decide (1 ≤ month) && decide (month ≤ 12) && decide (1 ≤ day) &&
          decide (day ≤ daysIn (Nat.ofDigitChars 10 [a, b, c, d] 0) month)
      | _, _ => false
  | _ => false

/-- Whether a word is the distance from universal time. -/
def isOffset : List Char → Bool
  | ['Z'] | ['z'] => true
  | [s, a, b, ':', c, d] => (s == '+' || s == '-') && twoWithin 0 23 a b && twoWithin 0 59 c d
  | _ => false

/-- What follows a time of day at the head of a word. -/
def afterTime? : List Char → Option (List Char)
  | a :: b :: ':' :: c :: d :: ':' :: e :: f :: rest =>
    if twoWithin 0 23 a b && twoWithin 0 59 c d && twoWithin 0 60 e f then
      match rest with
      | '.' :: fraction =>
        if fraction.takeWhile Char.isDigit = [] then none
        else some (fraction.dropWhile Char.isDigit)
      | rest => some rest
    else none
  | _ => none

def isTime (cs : List Char) : Bool :=
  afterTime? cs == some []

/-- Whether a word is a time of day, perhaps with the distance from universal time. -/
def isOffsetTime (cs : List Char) : Bool :=
  (afterTime? cs).any fun rest => rest.isEmpty || isOffset rest

def isDateTime (cs : List Char) : Bool :=
  isDate (cs.take 10) &&
    match cs.drop 10 with
    | t :: time => (t == 'T' || t == 't') && isOffsetTime time
    | [] => false

def scalar? (word : List Char) : Option Toml :=
  if word = "true".toList then some (boolean true)
  else if word = "false".toList then some (boolean false)
  else if isDate word || isTime word || isDateTime word then some date
  else if isSpecialFloat word || isDigitFloat word then some float
  else integer? word

def isWordChar (c : Char) : Bool :=
  c.isAlphanum || c == '+' || c == '-' || c == '.' || c == '_' || c == ':'

/-- Reads a value without quotation marks. A date may be parted from its time by a space. -/
def readScalar (cs : List Char) : Option (Toml × List Char) :=
  let word := cs.takeWhile isWordChar
  let rest := cs.dropWhile isWordChar
  match scalar? word with
  | none => none
  | some v =>
    match rest with
    | ' ' :: more =>
      if isDate word && isOffsetTime (more.takeWhile isWordChar) then
        some (date, more.dropWhile isWordChar)
      else some (v, rest)
    | _ => some (v, rest)

end Egress.Toml
