import Egress.Text.CodeRange

/-!
# TOML strings

There are four kinds: with quotation marks or apostrophes, single or tripled. Escapes are known only
between quotation marks, line ends only between tripled marks. A line end right after the opening
marks is dropped, and every line end counts as one line feed. Up to two marks may stand right before
the closing three.
-/

namespace Egress.Toml

/-- Whether a character may stand in a string as it is, marks and backslashes apart. -/
def isPlain (c : Char) : Bool :=
  c == '\t' || (decide (32 ≤ c.toNat) && c.toNat != 127)

/-- The character with the given number of hexadecimal digits at the head of the text. -/
def escapedCode? (digits : Nat) (cs : List Char) : Option Char :=
  let ds := cs.take digits
  if ds.length = digits ∧ ds.all (fun c => (Text.hexValue? c).isSome) then
    let n := Text.hexNumber ds
    if n.isValidChar then some (Char.ofNat n) else none
  else none

/-- The character that an escape stands for, and the number of characters after the backslash that
it takes. -/
def escape? : List Char → Option (Char × Nat)
  | 'b' :: _ => some ('\x08', 1)
  | 't' :: _ => some ('\t', 1)
  | 'n' :: _ => some ('\n', 1)
  | 'f' :: _ => some ('\x0c', 1)
  | 'r' :: _ => some ('\r', 1)
  | '"' :: _ => some ('"', 1)
  | '\\' :: _ => some ('\\', 1)
  | 'u' :: cs => (escapedCode? 4 cs).map (·, 5)
  | 'U' :: cs => (escapedCode? 8 cs).map (·, 9)
  | _ => none

/-- Reads up to the closing quotation mark, after skipping `skip` characters. -/
def readBasic : Nat → List Char → Option (List Char × List Char)
  | _, [] => none
  | skip + 1, _ :: rest => readBasic skip rest
  | 0, c :: rest =>
    if c = '"' then some ([], rest)
    else if c = '\\' then
      match escape? rest with
      | none => none
      | some (d, n) => (readBasic n rest).map fun (s, rest) => (d :: s, rest)
    else if isPlain c then (readBasic 0 rest).map fun (s, rest) => (c :: s, rest)
    else none

def readLiteral : List Char → Option (List Char × List Char)
  | [] => none
  | c :: rest =>
    if c = '\'' then some ([], rest)
    else if isPlain c then (readLiteral rest).map fun (s, rest) => (c :: s, rest)
    else none

/-- The number of characters that blanks and line ends at the head of a text take. -/
def blankSpan : List Char → Nat
  | [] => 0
  | c :: rest =>
    if c = ' ' ∨ c = '\t' ∨ c = '\n' then blankSpan rest + 1
    else if c = '\r' ∧ rest.head? = some '\n' then blankSpan rest + 1
    else 0

def lineEndsHere (cs : List Char) : Bool :=
  match cs.dropWhile (fun c => c == ' ' || c == '\t') with
  | '\n' :: _ => true
  | '\r' :: '\n' :: _ => true
  | _ => false

def markRun (mark : Char) (cs : List Char) : Nat :=
  (cs.takeWhile (· == mark)).length

/-- Reads up to the three closing marks, after skipping `skip` characters; escapes count only
between quotation marks. -/
def readLong (mark : Char) : Nat → List Char → Option (List Char × List Char)
  | _, [] => none
  | skip + 1, _ :: rest => readLong mark skip rest
  | 0, c :: rest =>
    if c = mark ∧ 3 ≤ markRun mark (c :: rest) then
      let extra := min (markRun mark (c :: rest) - 3) 2
      some (List.replicate extra mark, (c :: rest).drop (extra + 3))
    else if c = '\\' ∧ mark = '"' then
      if lineEndsHere rest then readLong mark (blankSpan rest) rest
      else
        match escape? rest with
        | none => none
        | some (d, n) => (readLong mark n rest).map fun (s, rest) => (d :: s, rest)
    else if c = '\r' then
      if rest.head? = some '\n' then readLong mark 0 rest else none
    else if c = '\n' ∨ isPlain c then (readLong mark 0 rest).map fun (s, rest) => (c :: s, rest)
    else none

def dropLineEnd : List Char → List Char
  | '\n' :: rest => rest
  | '\r' :: '\n' :: rest => rest
  | cs => cs

/-- Reads a string of any kind, its opening marks included; none if it does not begin with one or is
not closed. -/
def readString : List Char → Option (List Char × List Char)
  | '"' :: '"' :: '"' :: rest => readLong '"' 0 (dropLineEnd rest)
  | '\'' :: '\'' :: '\'' :: rest => readLong '\'' 0 (dropLineEnd rest)
  | '"' :: rest => readBasic 0 rest
  | '\'' :: rest => readLiteral rest
  | _ => none

end Egress.Toml
