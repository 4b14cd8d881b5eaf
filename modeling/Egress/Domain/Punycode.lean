/-!
# Punycode

The encoding of a label of any characters by ASCII letters, digits and hyphens. The ASCII
characters come first as they are; the others follow as a list of numbers that say how far one moves
through code points and places before the next one is inserted. Each number is written in digits of
base 36 whose thresholds adapt to the numbers before it.

Every loop is over a list or shrinks its number, so nothing here needs a bound on its steps.
-/

namespace Egress.Domain.Punycode

/-- The character of a digit: `a` to `z` for 0 to 25, `0` to `9` for 26 to 35. -/
def digitChar (d : Nat) : Char :=
  if d < 26 then Char.ofNat (97 + d) else Char.ofNat (22 + d)

/-- The digit of a character, in either letter case. -/
def digitValue? (c : Char) : Option Nat :=
  if 'a' ≤ c ∧ c ≤ 'z' then some (c.toNat - 97)
  else if 'A' ≤ c ∧ c ≤ 'Z' then some (c.toNat - 65)
  else if '0' ≤ c ∧ c ≤ '9' then some (c.toNat - 22)
  else none

/-- The threshold of the digit at position `k`, positions being counted in steps of 36. -/
def threshold (k bias : Nat) : Nat :=
  if k ≤ bias then 1 else if bias + 26 ≤ k then 26 else k - bias

theorem threshold_pos (k bias : Nat) : 1 ≤ threshold k bias := by
  unfold threshold
  split
  · omega
  · split <;> omega

theorem threshold_le (k bias : Nat) : threshold k bias ≤ 26 := by
  unfold threshold
  split
  · omega
  · split <;> omega

/-- Divides by 35 until at most 455 is left, counting 36 for each division. -/
def shrink (delta k : Nat) : Nat × Nat :=
  if 455 < delta then shrink (delta / 35) (k + 36) else (delta, k)
termination_by delta
decreasing_by exact Nat.div_lt_self (by omega) (by omega)

/-- The bias after a number `delta`, when there are `count` characters. -/
def adapt (delta count : Nat) (first : Bool) : Nat :=
  let halved := if first then delta / 700 else delta / 2
  let (delta, k) := shrink (halved + halved / count) 0
  k + 36 * delta / (delta + 38)

def initialBias : Nat := 72

def initialCode : Nat := 128

def numberChars (bias k q : Nat) : List Char :=
  let t := threshold k bias
  if q < t then [digitChar q]
  else digitChar (t + (q - t) % (36 - t)) :: numberChars bias (k + 36) ((q - t) / (36 - t))
termination_by q
decreasing_by
  have pos := threshold_pos k bias
  have smaller := Nat.div_le_self (q - threshold k bias) (36 - threshold k bias)
  omega

/-- The state while a label is encoded: the number to be written next, the bias, and how many
characters are done. -/
structure Encoding where
  output : List Char
  delta : Nat
  bias : Nat
  count : Nat

/-- Passes one character of the label while the characters with code `code` are inserted; `basic`
of the characters are ASCII. -/
def Encoding.pass (basic code : Nat) (e : Encoding) (c : Char) : Encoding :=
  if c.toNat < code then { e with delta := e.delta + 1 }
  else if c.toNat = code then
    { output := e.output ++ numberChars e.bias 36 e.delta
      delta := 0
      bias := adapt e.delta (e.count + 1) (e.count == basic)
      count := e.count + 1 }
  else e

/-- Inserts the characters of the given increasing codes, starting after all codes below `from`. -/
def encodeCodes (label : List Char) (basic : Nat) : List Nat → Nat → Encoding → Encoding
  | [], _, e => e
  | code :: codes, start, e =>
    let moved := { e with delta := e.delta + (code - start) * (e.count + 1) }
    let done := label.foldl (Encoding.pass basic code) moved
    encodeCodes label basic codes (code + 1) { done with delta := done.delta + 1 }

def insertCode (n : Nat) : List Nat → List Nat
  | [] => [n]
  | m :: rest =>
    if n < m then n :: m :: rest else if n = m then m :: rest else m :: insertCode n rest

def isBasic (c : Char) : Bool := decide (c.toNat < 128)

/-- The encoding of a label, without a mark that it is one. -/
def encode (label : List Char) : List Char :=
  let basic := label.filter isBasic
  let codes := (label.filter (fun c => !isBasic c)).foldl (fun l c => insertCode c.toNat l) []
  let head := if basic.isEmpty then [] else basic ++ ['-']
  (encodeCodes label basic.length codes initialCode
    ⟨head, 0, initialBias, basic.length⟩).output

/-- The state while a label is decoded: the characters so far, the code and place of the next one,
and the number that is being read. -/
structure Decoding where
  output : List Char
  code : Nat
  place : Nat
  bias : Nat
  number : Nat
  weight : Nat
  position : Nat
  first : Bool

def charOf? (n : Nat) : Option Char :=
  if n < 0xD800 ∨ (0xDFFF < n ∧ n < 0x110000) then some (Char.ofNat n) else none

/-- Reads one digit. The last digit of a number inserts a character. -/
def Decoding.read? (s : Decoding) (digit : Nat) : Option Decoding :=
  let number := s.number + digit * s.weight
  let t := threshold s.position s.bias
  if digit < t then
    let size := s.output.length + 1
    let total := s.place + number
    let code := s.code + total / size
    let place := total % size
    (charOf? code).map fun c =>
      { output := s.output.take place ++ c :: s.output.drop place
        code := code
        place := place + 1
        bias := adapt number size s.first
        number := 0
        weight := 1
        position := 36
        first := false }
  else some { s with number := number, weight := s.weight * (36 - t), position := s.position + 36 }

/-- Reads digits up to the end, where no number may be unfinished. -/
def decodeDigits? (s : Decoding) : List Char → Option (List Char)
  | [] => if s.position = 36 then some s.output else none
  | c :: rest =>
    match digitValue? c with
    | none => none
    | some d =>
      match s.read? d with
      | none => none
      | some s => decodeDigits? s rest

/-- The ASCII characters in front of the last hyphen, and the digits after it. -/
def splitAtLastHyphen (cs : List Char) : List Char × List Char :=
  if cs.contains '-' then
    let digits := (cs.reverse.takeWhile (· != '-')).reverse
    (cs.take (cs.length - digits.length - 1), digits)
  else ([], cs)

def decode? (cs : List Char) : Option (List Char) :=
  let (basic, digits) := splitAtLastHyphen cs
  decodeDigits? ⟨basic, initialCode, 0, initialBias, 0, 1, 36, true⟩ digits

end Egress.Domain.Punycode
