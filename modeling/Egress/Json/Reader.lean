import Egress.Json.Basic
import Egress.Text.CodeRange
import Egress.Text.Utf8

/-!
# Reading JSON

A strict reader for one JSON value, with a fault for every text that is none. A fault names its
cause and its place, a line and a column counted in bytes. Where two things are wrong the reader
reports the one it meets first, reading from left to right and from the outside in.

Numbers are read in two classes. Digits alone give an integer if it fits 64 bits. Everything else
gives a double, computed from the leading digits that fit 64 bits by one multiplication or division
by a power of ten, each rounded; the result is close to the number written but not always the
nearest double.
-/

namespace Egress.Json

inductive Cause where
  | endInList
  | endInObject
  | endInString
  | endInValue
  | expectedColon
  | expectedListEnd
  | expectedObjectEnd
  | expectedWord
  | expectedValue
  | invalidEscape
  | invalidNumber
  | numberOutOfRange
  | controlCharacter
  | keyNotString
  | trailingComma
  | loneSurrogate
  | unfinishedSurrogatePair
  | trailingCharacters
  | tooDeep
  deriving Repr, DecidableEq

namespace Cause

def message : Cause → String
  | endInList => "EOF while parsing a list"
  | endInObject => "EOF while parsing an object"
  | endInString => "EOF while parsing a string"
  | endInValue => "EOF while parsing a value"
  | expectedColon => "expected `:`"
  | expectedListEnd => "expected `,` or `]`"
  | expectedObjectEnd => "expected `,` or `\x7d`"
  | expectedWord => "expected ident"
  | expectedValue => "expected value"
  | invalidEscape => "invalid escape"
  | invalidNumber => "invalid number"
  | numberOutOfRange => "number out of range"
  | controlCharacter => "control character (\\u0000-\\u001F) found while parsing a string"
  | keyNotString => "key must be a string"
  | trailingComma => "trailing comma"
  | loneSurrogate => "lone leading surrogate in hex escape"
  | unfinishedSurrogatePair => "unexpected end of hex escape"
  | trailingCharacters => "trailing characters"
  | tooDeep => "recursion limit exceeded"

end Cause

/-- A cause with its place: the input that was left, and how many bytes of it had been looked at. -/
structure Stop where
  cause : Cause
  rest : List Char
  seen : Nat

/-- A step of reading: a result with the input that is left, or the stop. -/
abbrev Step (α : Type) := Except Stop (α × List Char)

def stopBefore {α : Type} (cause : Cause) (rest : List Char) : Except Stop α :=
  .error ⟨cause, rest, 0⟩

/-- Stops on the first byte of the input that is left. -/
def stopOn {α : Type} (cause : Cause) (rest : List Char) : Except Stop α :=
  .error ⟨cause, rest, 1⟩

/-- Whether a character may stand between tokens. -/
def isSpace (c : Char) : Bool :=
  c == ' ' || c == '\n' || c == '\t' || c == '\r'

def skipSpace (cs : List Char) : List Char :=
  cs.dropWhile isSpace

def readWord : List Char → List Char → Step Unit
  | [], cs => .ok ((), cs)
  | _ :: _, [] => stopBefore .endInValue []
  | w :: ws, c :: cs => if c = w then readWord ws cs else stopOn .expectedWord (c :: cs)

def hexUnit? : List Char → Option Nat
  | [a, b, c, d] => do
    let a ← Text.hexValue? a
    let b ← Text.hexValue? b
    let c ← Text.hexValue? c
    let d ← Text.hexValue? d
    some (((16 * a + b) * 16 + c) * 16 + d)
  | _ => none

/-- Reads the four digits of a `\u` escape. Digits are looked at four bytes at a time. -/
def readHexUnit (cs : List Char) : Step Nat :=
  match hexUnit? (cs.take 4) with
  | some n => .ok (n, cs.drop 4)
  | none =>
    if (Text.Utf8.encodeChars (cs.take 4)).length < 4 then stopBefore .endInString []
    else .error ⟨.invalidEscape, cs, 4⟩

/-- Whether a 16-bit unit is the first half of a pair. -/
def isLeadUnit (n : Nat) : Bool := decide (0xD800 ≤ n) && decide (n ≤ 0xDBFF)

def isTrailUnit (n : Nat) : Bool := decide (0xDC00 ≤ n) && decide (n ≤ 0xDFFF)

/-- Reads what follows `\u`: one unit, or two that make up a pair. The result is the character and
the number of characters that were read. -/
def readUnicodeEscape (cs : List Char) : Except Stop (Char × Nat) :=
  match readHexUnit cs with
  | .error e => .error e
  | .ok (n, rest) =>
    if isTrailUnit n then stopBefore .loneSurrogate rest
    else if isLeadUnit n then
      match rest with
      | [] => stopBefore .endInString []
      | '\\' :: [] => stopBefore .endInString []
      | '\\' :: 'u' :: rest =>
        match readHexUnit rest with
        | .error e => .error e
        | .ok (m, rest) =>
          if isTrailUnit m then
            .ok (Char.ofNat (0x10000 + (n - 0xD800) * 1024 + (m - 0xDC00)), 10)
          else stopBefore .loneSurrogate rest
      | '\\' :: c :: rest => stopOn .unfinishedSurrogatePair (c :: rest)
      | c :: rest => stopOn .unfinishedSurrogatePair (c :: rest)
    else .ok (Char.ofNat n, 4)

/-- Reads what follows a backslash: the character meant, and the number of characters read. -/
def readEscape : List Char → Except Stop (Char × Nat)
  | [] => stopBefore .endInString []
  | '"' :: _ => .ok ('"', 1)
  | '\\' :: _ => .ok ('\\', 1)
  | '/' :: _ => .ok ('/', 1)
  | 'b' :: _ => .ok ('\x08', 1)
  | 'f' :: _ => .ok ('\x0c', 1)
  | 'n' :: _ => .ok ('\n', 1)
  | 'r' :: _ => .ok ('\r', 1)
  | 't' :: _ => .ok ('\t', 1)
  | 'u' :: rest => (readUnicodeEscape rest).map fun (c, n) => (c, n + 1)
  | c :: rest => stopOn .invalidEscape (c :: rest)

/-- Reads a string after its opening quotation mark, skipping `skip` characters that an escape has
used up. -/
def readStringFrom : Nat → List Char → Step (List Char)
  | _, [] => stopBefore .endInString []
  | skip + 1, _ :: rest => readStringFrom skip rest
  | 0, c :: rest =>
    if c = '"' then .ok ([], rest)
    else if c = '\\' then
      match readEscape rest with
      | .error e => .error e
      | .ok (d, n) => (readStringFrom n rest).map fun (ds, r) => (d :: ds, r)
    else if c.toNat < 32 then stopOn .controlCharacter (c :: rest)
    else (readStringFrom 0 rest).map fun (ds, r) => (c :: ds, r)

def readString (cs : List Char) : Step String :=
  (readStringFrom 0 cs).map fun (ds, r) => (String.ofList ds, r)

/-- Adds digits to a number as long as it stays below `2 ^ 64`: the number, and how many digits were
added. -/
def absorb (n : Nat) : List Char → Nat × Nat
  | [] => (n, 0)
  | d :: ds =>
    let m := 10 * n + (d.toNat - 48)
    if m < 0x10000000000000000 then
      let (k, count) := absorb m ds
      (k, count + 1)
    else (n, 0)

/-- Divides a magnitude by `10 ^ e`, taking `10 ^ 308` at a time from a large exponent. -/
def divideByPower (units : Nat) (e : Nat) : Nat :=
  if e ≤ 308 then Binary64.divUnits units (Binary64.roundUnits (Nat.pow 10 e * Binary64.one) 1)
  else if units = 0 then 0
  else
    let power := Binary64.roundUnits (Nat.pow 10 308 * Binary64.one) 1
    divideByPower (Binary64.divUnits units power) (e - 308)
termination_by e

/-- The magnitude of `n * 10 ^ e`, or nothing if it is out of range. -/
def scaled? (n : Nat) (e : Int) : Option Nat :=
  let units := Binary64.roundUnits (n * Binary64.one) 1
  if 0 ≤ e then
    if units = 0 then some 0
    else if 308 < e then none
    else Binary64.finite?
      (Binary64.mulUnits units (Binary64.roundUnits (Nat.pow 10 e.toNat * Binary64.one) 1))
  else some (divideByPower units (-e).toNat)

def finishDouble (negative : Bool) (n : Nat) (e : Int) (rest : List Char) : Step Number :=
  match scaled? n e with
  | some units => .ok (.double ⟨negative, units⟩, rest)
  | none => stopBefore .numberOutOfRange rest

/-- The greatest exponent that is read to its end. -/
def greatestExponent : Nat := 0x7FFFFFFF

/-- Reads digits of an exponent as long as it does not exceed the greatest one: the exponent, and
the input from the first digit that would exceed it. -/
def exponentDigits (n : Nat) : List Char → Nat × List Char
  | [] => (n, [])
  | d :: ds =>
    if d.isDigit then
      let m := 10 * n + (d.toNat - 48)
      if m ≤ greatestExponent then exponentDigits m ds else (n, d :: ds)
    else (n, d :: ds)

def startsWithDigit : List Char → Bool
  | d :: _ => d.isDigit
  | [] => false

/-- Reads the exponent after its `e`; the number is `n * 10 ^ e` so far. -/
def readExponent (negative : Bool) (n : Nat) (e : Int) (cs : List Char) : Step Number :=
  let (down, cs) := match cs with
    | '+' :: rest => (false, rest)
    | '-' :: rest => (true, rest)
    | rest => (false, rest)
  match cs with
  | [] => stopBefore .endInValue []
  | d :: rest =>
    if ¬ d.isDigit then stopOn .invalidNumber (d :: rest)
    else
      let (k, rest) := exponentDigits 0 (d :: rest)
      if startsWithDigit rest then
        -- the exponent is beyond all bounds
        if n ≠ 0 ∧ ¬ down then stopBefore .numberOutOfRange (rest.drop 1)
        else .ok (.double (Binary64.zero negative), rest.dropWhile Char.isDigit)
      else finishDouble negative n (if down then e - k else e + k) rest

def readOptionalExponent (negative : Bool) (n : Nat) (e : Int) : List Char → Step Number
  | [] => finishDouble negative n e []
  | c :: rest =>
    if c = 'e' ∨ c = 'E' then readExponent negative n e rest
    else finishDouble negative n e (c :: rest)

/-- Reads the digits after the point; `n` and `e` are the number in front of it. -/
def readFraction (negative : Bool) (n : Nat) (e : Int) (cs : List Char) : Step Number :=
  match cs with
  | [] => stopBefore .endInValue []
  | c :: rest =>
    if ¬ c.isDigit then stopOn .invalidNumber (c :: rest)
    else
      let (m, count) := absorb n (cs.takeWhile Char.isDigit)
      readOptionalExponent negative m (e - count) (cs.dropWhile Char.isDigit)

/-- The number that an integer literal stands for: an integer of 64 bits, or a double if it is a
negative zero or too small. -/
def integerNumber (negative : Bool) (n : Nat) : Number :=
  if ¬ negative then .integer n
  else if n = 0 ∨ 0x8000000000000000 < n then
    .double ⟨true, Binary64.roundUnits (n * Binary64.one) 1⟩
  else .integer (-n)

/-- The number at the end of its text if there is neither a point nor an exponent; the last
`dropped` of its digits are not part of `n`. -/
def finishWhole (negative : Bool) (n dropped : Nat) (rest : List Char) : Step Number :=
  if dropped = 0 then .ok (integerNumber negative n, rest)
  else finishDouble negative n dropped rest

def readAfterWhole (negative : Bool) (n dropped : Nat) : List Char → Step Number
  | [] => finishWhole negative n dropped []
  | c :: rest =>
    if c = '.' then readFraction negative n dropped rest
    else if c = 'e' ∨ c = 'E' then readExponent negative n dropped rest
    else finishWhole negative n dropped (c :: rest)

/-- Reads a number after its sign. -/
def readNumber (negative : Bool) (cs : List Char) : Step Number :=
  match cs with
  | [] => stopBefore .endInValue []
  | c :: rest =>
    if c = '0' then
      if startsWithDigit rest then stopOn .invalidNumber rest
      else readAfterWhole negative 0 0 rest
    else if c.isDigit then
      let ds := cs.takeWhile Char.isDigit
      let (n, count) := absorb 0 ds
      readAfterWhole negative n (ds.length - count) (cs.dropWhile Char.isDigit)
    else stopOn .invalidNumber cs

def readColon (cs : List Char) : Step Unit :=
  match skipSpace cs with
  | [] => stopBefore .endInObject []
  | c :: rest => if c = ':' then .ok ((), rest) else stopOn .expectedColon (c :: rest)

/-- What comes next in a container: its end, or an item that starts with the input given. -/
inductive Next where
  | done (rest : List Char)
  | item (rest : List Char)

def nextItem (first : Bool) (cs : List Char) : Except Stop Next :=
  match skipSpace cs with
  | [] => stopBefore .endInList []
  | c :: rest =>
    if c = ']' then .ok (.done rest)
    else if first then .ok (.item (c :: rest))
    else if c = ',' then
      match skipSpace rest with
      | [] => stopBefore .endInValue []
      | d :: rest => if d = ']' then stopOn .trailingComma (d :: rest) else .ok (.item (d :: rest))
    else stopOn .expectedListEnd (c :: rest)

/-- Looks for the next key of an object; the input given is what follows its quotation mark. -/
def nextKey (first : Bool) (cs : List Char) : Except Stop Next :=
  let key : List Char → Except Stop Next
    | [] => stopBefore .endInValue []
    | c :: rest =>
      if c = '"' then .ok (.item rest)
      else if c = '\x7d' then stopOn .trailingComma (c :: rest)
      else stopOn .keyNotString (c :: rest)
  match skipSpace cs with
  | [] => stopBefore .endInObject []
  | c :: rest =>
    if c = '\x7d' then .ok (.done rest)
    else if first then key (c :: rest)
    else if c = ',' then key (skipSpace rest)
    else stopOn .expectedObjectEnd (c :: rest)

mutual

/-- Reads a value in which at most `room` further containers may be nested. -/
def readValue (room : Nat) : Nat → List Char → Step Json
  | 0, cs => stopBefore .tooDeep cs
  | fuel + 1, cs =>
    match skipSpace cs with
    | [] => stopBefore .endInValue []
    | c :: rest =>
      if c = 'n' then (readWord ['u', 'l', 'l'] rest).map fun (_, r) => (null, r)
      else if c = 't' then (readWord ['r', 'u', 'e'] rest).map fun (_, r) => (bool true, r)
      else if c = 'f' then (readWord ['a', 'l', 's', 'e'] rest).map fun (_, r) => (bool false, r)
      else if c = '-' then (readNumber true rest).map fun (n, r) => (number n, r)
      else if c.isDigit then (readNumber false (c :: rest)).map fun (n, r) => (number n, r)
      else if c = '"' then (readString rest).map fun (s, r) => (string s, r)
      else if c = '[' then
        if room = 0 then stopOn .tooDeep (c :: rest)
        else (readItems (room - 1) true fuel rest).map fun (vs, r) => (array vs, r)
      else if c = '\x7b' then
        if room = 0 then stopOn .tooDeep (c :: rest)
        else (readMembers (room - 1) true fuel rest).map fun (ms, r) => (ofMembers ms, r)
      else stopOn .expectedValue (c :: rest)

def readItems (room : Nat) (first : Bool) : Nat → List Char → Step (List Json)
  | 0, cs => stopBefore .tooDeep cs
  | fuel + 1, cs =>
    match nextItem first cs with
    | .error e => .error e
    | .ok (.done rest) => .ok ([], rest)
    | .ok (.item rest) =>
      match readValue room fuel rest with
      | .error e => .error e
      | .ok (v, rest) => (readItems room false fuel rest).map fun (vs, r) => (v :: vs, r)

/-- Reads the members of an object up to its end, in the order written. -/
def readMembers (room : Nat) (first : Bool) : Nat → List Char → Step (List (String × Json))
  | 0, cs => stopBefore .tooDeep cs
  | fuel + 1, cs =>
    match nextKey first cs with
    | .error e => .error e
    | .ok (.done rest) => .ok ([], rest)
    | .ok (.item rest) =>
      match readString rest with
      | .error e => .error e
      | .ok (k, rest) =>
        match readColon rest with
        | .error e => .error e
        | .ok (_, rest) =>
          match readValue room fuel rest with
          | .error e => .error e
          | .ok (v, rest) => (readMembers room false fuel rest).map fun (ms, r) => ((k, v) :: ms, r)

end

/-- Reads a text that is one value with spaces around it. Every call eats a character or is the last
one of its kind at its place, so the fuel given here is never used up. -/
def readAll (room : Nat) (cs : List Char) : Except Stop Json :=
  match readValue room (2 * cs.length + 2) cs with
  | .error e => .error e
  | .ok (v, rest) =>
    match skipSpace rest with
    | [] => .ok v
    | c :: rest => stopOn .trailingCharacters (c :: rest)

/-- A cause with its line and column. Columns count bytes, and a column of zero is the line end
before the line. -/
structure Fault where
  cause : Cause
  line : Nat
  column : Nat
  deriving Repr, DecidableEq

namespace Fault

def message (f : Fault) : String :=
  s!"{f.cause.message} at line {f.line} column {f.column}"

end Fault

/-- The line and column of a stop in a text: those of the last byte that had been looked at. -/
def Stop.locate (text : List Char) (s : Stop) : Fault :=
  let bytes := Text.Utf8.encodeChars text
  let left := (Text.Utf8.encodeChars s.rest).length
  let before := bytes.take (bytes.length - left + s.seen)
  ⟨s.cause, 1 + before.count 10, (before.reverse.takeWhile (· != 10)).length⟩

def fileRoom : Nat := 127

/-- Reads a text that is one JSON value with less than 128 nested containers. -/
def parse (s : String) : Except Fault Json :=
  (readAll fileRoom s.toList).mapError (Stop.locate s.toList)

end Egress.Json
