import Egress.Text.AlphanumericTable
import Egress.Text.CodeRange

/-!
# Well-formed patterns

A filter may ask for the value of a field by a regular expression. No values are looked at here, but
a filter with an ill-formed expression is refused, so it has to be known which ones are well formed.
A pattern cannot hold commas, equals signs and closing braces, since these end it; so counted
repetition and everything else that needs braces is ill formed. So are look-around, references back
and word boundaries, which the expressions meant here do not have.

The check goes through the text once and is no full reader of expressions. It lets pass too much
where it does not look: group names that are given twice or begin with a digit outside ASCII,
nesting of any depth and expressions of any size, and under the flag `-u` whatever needs Unicode or
matches a part of a character. It refuses word boundaries under `-u`, too, where they are those of
ASCII. Under the flag `x` it takes blanks and `#` at their word, so that it refuses a comment that
is no pattern by itself and lets pass a repetition of mere blanks. No statement on filters depends
on the patterns that it takes for well formed.
-/

namespace Egress.LogFilter.Pattern

inductive Escape where
  | literal (c : Char)
  | set
  | position
  deriving Repr, DecidableEq

/-- A character that is given by exactly `digits` hexadecimal digits. -/
def coded? (digits : Nat) (cs : List Char) : Option (Escape × Nat) :=
  let ds := cs.take digits
  let n := Text.hexNumber ds
  if ds.length = digits ∧ ds.all (fun c => (Text.hexValue? c).isSome) ∧ n.isValidChar then
    some (.literal (Char.ofNat n), digits + 1)
  else none

/-- The meaning of an escape, and the number of characters after the backslash that it takes. -/
def escape? : List Char → Option (Escape × Nat)
  | [] => none
  | c :: rest =>
    if c = 'x' then coded? 2 rest
    else if c = 'u' then coded? 4 rest
    else if c = 'U' then coded? 8 rest
    else if c = 'p' ∨ c = 'P' then
      match rest with
      | d :: _ => if "LMNPSZClmnpszc".toList.contains d then some (.set, 2) else none
      | [] => none
    else if "dDsSwW".toList.contains c then some (.set, 1)
    else if "Az".toList.contains c then some (.position, 1)
    else if c = 'a' then some (.literal '\x07', 1)
    else if c = 'f' then some (.literal '\x0c', 1)
    else if c = 't' then some (.literal '\t', 1)
    else if c = 'n' then some (.literal '\n', 1)
    else if c = 'r' then some (.literal '\r', 1)
    else if c = 'v' then some (.literal '\x0b', 1)
    else if c.toNat < 128 ∧ ¬ c.isAlphanum ∧ c ≠ '<' ∧ c ≠ '>' then some (.literal c, 1)
    else none

/-- One member of a bracketed set: its character, if it is a single one, and the number of
characters it takes. -/
def member? : List Char → Option (Option Char × Nat)
  | [] => none
  | '\\' :: rest =>
    match escape? rest with
    | some (.literal c, n) => some (some c, n + 1)
    | some (.set, n) => some (none, n + 1)
    | _ => none
  | c :: _ => some (some c, 1)

/-- The number of characters that a member or a range of members takes. -/
def range? (cs : List Char) : Option Nat :=
  match member? cs with
  | none => none
  | some (low, n) =>
    match cs.drop n with
    | '-' :: rest =>
      if rest = [] ∨ rest.head? = some ']' ∨ rest.head? = some '-' then some n
      else
        match low, member? rest with
        | some low, some (some high, m) => if low ≤ high then some (n + 1 + m) else none
        | _, _ => none
    | _ => some n

def classNames : List String :=
  ["alnum", "alpha", "ascii", "blank", "cntrl", "digit", "graph", "lower", "print", "punct",
    "space", "upper", "word", "xdigit"]

/-- The length of a named class with its brackets at the head of a text. -/
def namedClass? (cs : List Char) : Option Nat :=
  match cs with
  | '[' :: ':' :: rest =>
    let mark := if rest.head? = some '^' then 1 else 0
    let name := (rest.drop mark).takeWhile Char.isAlpha
    match (rest.drop mark).drop name.length with
    | ':' :: ']' :: _ =>
      if classNames.contains (String.ofList name) then some (mark + name.length + 4) else none
    | _ => none
  | _ => none

/-- The number of characters at the beginning of a bracketed set, after its bracket, that do not
end it: a negation, and hyphens or one bracket that stand for themselves. -/
def openingSpan (cs : List Char) : Nat :=
  let mark := if cs.head? = some '^' then 1 else 0
  let hyphens := ((cs.drop mark).takeWhile (· == '-')).length
  if hyphens = 0 ∧ (cs.drop mark).head? = some ']' then mark + 1 else mark + hyphens

def isGroupName : List Char → Bool
  | [] => false
  | c :: rest =>
    let isLetter (c : Char) : Bool :=
      c == '_' || c.isAlpha || Text.inRanges Text.alphanumericRanges c
    isLetter c && rest.all fun c => isLetter c || c.isDigit || c == '.' || c == '[' || c == ']'

/-- Whether a text is a sequence of distinct flags, some of them perhaps after one hyphen. -/
def areFlags (cs : List Char) : Bool :=
  let flags := cs.filter (· != '-')
  flags.all "imsURux".toList.contains && decide flags.Nodup &&
    decide (cs.count '-' ≤ 1) && cs.getLast? != some '-'

inductive Opening where
  /-- An expression in parentheses follows. -/
  | group
  /-- Flags are set, and nothing is opened. -/
  | flags
  deriving Repr, DecidableEq

/-- What a parenthesis opens, and the number of characters that this takes. -/
def opening? (cs : List Char) : Option (Opening × Nat) :=
  let named (rest : List Char) (n : Nat) : Option (Opening × Nat) :=
    let name := rest.takeWhile (· != '>')
    if name.length < rest.length ∧ isGroupName name then some (.group, n + name.length + 1)
    else none
  match cs with
  | '?' :: 'P' :: '<' :: rest => named rest 4
  | '?' :: '<' :: rest => named rest 3
  | '?' :: rest =>
    let flags := rest.takeWhile (fun c => c != ':' && c != ')')
    if areFlags flags then
      match rest.drop flags.length with
      | ':' :: _ => some (.group, flags.length + 3)
      | ')' :: _ => if flags = [] then none else some (.flags, flags.length + 3)
      | _ => none
    else none
  | _ => some (.group, 1)

/-- Where the check stands: how many parentheses and brackets are open, and whether there is an
expression that could be repeated. -/
structure Standing where
  groups : Nat
  sets : Nat
  repeatable : Bool

/-- The standing after the next part of a bracketed set, and the length of the part. -/
def stepInSet (s : Standing) (cs : List Char) : Option (Standing × Nat) :=
  match cs with
  | [] => none
  | '[' :: rest =>
    match namedClass? cs with
    | some n => some (s, n)
    | none => some ({ s with sets := s.sets + 1 }, openingSpan rest + 1)
  | ']' :: _ => some ({ s with sets := s.sets - 1, repeatable := true }, 1)
  | '&' :: '&' :: _ => some (s, 2)
  | '-' :: '-' :: _ => some (s, 2)
  | '~' :: '~' :: _ => some (s, 2)
  | cs => (range? cs).map (s, ·)

def stepOutside (s : Standing) (cs : List Char) : Option (Standing × Nat) :=
  match cs with
  | [] => none
  | '(' :: rest =>
    match opening? rest with
    | some (.group, n) => some ({ s with groups := s.groups + 1, repeatable := false }, n)
    | some (.flags, n) => some ({ s with repeatable := false }, n)
    | none => none
  | ')' :: _ =>
    if s.groups = 0 then none else some ({ s with groups := s.groups - 1, repeatable := true }, 1)
  | '|' :: _ => some ({ s with repeatable := false }, 1)
  | '[' :: rest => some ({ s with sets := 1 }, openingSpan rest + 1)
  | '\\' :: rest => (escape? rest).map fun (_, n) => ({ s with repeatable := true }, n + 1)
  | c :: _ =>
    if c = '*' ∨ c = '+' ∨ c = '?' then if s.repeatable then some (s, 1) else none
    else if c = '\x7b' then none
    else some ({ s with repeatable := true }, 1)

def step (s : Standing) (cs : List Char) : Option (Standing × Nat) :=
  if s.sets = 0 then stepOutside s cs else stepInSet s cs

/-- Whether the rest of a pattern is well formed, after skipping `skip` characters. -/
def holdsFrom (s : Standing) : Nat → List Char → Bool
  | 0, [] => decide (s.groups = 0) && decide (s.sets = 0)
  | _ + 1, [] => false
  | skip + 1, _ :: rest => holdsFrom s skip rest
  | 0, c :: rest =>
    match step s (c :: rest) with
    | some (s, n) => holdsFrom s (n - 1) rest
    | none => false

def isWellFormed (cs : List Char) : Bool :=
  holdsFrom ⟨0, 0, false⟩ 0 cs

end Egress.LogFilter.Pattern
