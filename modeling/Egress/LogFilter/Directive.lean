import Egress.Decimal.Reading
import Egress.Event
import Egress.LogFilter.Pattern
import Egress.Text.Normal

/-!
# Directives of a log filter

A directive says which events may pass: those of a target, of a span, with a field, up to a level.
All its parts but one may be missing; a word by itself is a level if it can be, and else a target
with all its levels. Blanks around a directive are overlooked in finding its parts but not in what
the parts say, so that a level next to a blank is refused, and a target keeps the blank.
-/

namespace Egress.LogFilter

/-- The least serious level that passes; none passes if there is none. -/
abbrev Threshold := Option Level

def Threshold.admits (t : Threshold) (level : Level) : Bool :=
  t.any fun most => decide (level.rank ≤ most.rank)

def thresholdOfNat? : Nat → Option Threshold
  | 0 => some none
  | 1 => some (some .error)
  | 2 => some (some .warn)
  | 3 => some (some .info)
  | 4 => some (some .debug)
  | 5 => some (some .trace)
  | _ => none

def thresholdOfName? (name : List Char) : Option Threshold :=
  match String.ofList name with
  | "off" => some none
  | "error" => some (some .error)
  | "warn" => some (some .warn)
  | "info" => some (some .info)
  | "debug" => some (some .debug)
  | "trace" => some (some .trace)
  | _ => none

/-- The threshold that a text names by a number or in letters of any case. -/
def threshold? (cs : List Char) : Option Threshold :=
  let digits := match cs with
    | '+' :: ds => ds
    | ds => ds
  if !digits.isEmpty && digits.all Char.isDigit then
    thresholdOfNat? (Nat.ofDigitChars 10 digits 0)
  else thresholdOfName? (cs.map Char.toLower)

/-- A field that a directive asks for, perhaps with a value. -/
structure FieldTest where
  name : List Char
  hasValue : Bool
  deriving Repr, DecidableEq

/-- Reads a field test. Of several equals signs the first parts the name from the value, and the
value ends at the second. A value is a truth value, a number or else a pattern. -/
def FieldTest.parse? (cs : List Char) : Option FieldTest :=
  match cs.splitOn '=' with
  | [] => none
  | [name] => some ⟨name, false⟩
  | name :: value :: _ =>
    if (TypedNumber.read? value).isSome || Pattern.isWellFormed value then some ⟨name, true⟩
    else none

structure Directive where
  target : Option (List Char) := none
  inSpan : Bool := false
  field : Option FieldTest := none
  threshold : Threshold := some .trace
  deriving Repr, DecidableEq

namespace Directive

/-- Which part of a directive is being read, and where it started. -/
inductive Stage where
  | start
  | word (start : Nat)
  | span (start : Nat)
  | field (start : Nat)
  | spanEnd
  | level
  | threshold (start : Nat)
  deriving Repr, DecidableEq

def mayBegin (c : Char) : Bool :=
  c == '-' || c == ':' || c == '_' || c.isAlphanum || Text.inRanges Text.alphanumericRanges c

def slice (cs : List Char) (start stop : Nat) : List Char :=
  (cs.take stop).drop start

/-- The directive and the stage after one more character, which is at place `i`. -/
def step (cs : List Char) (i : Nat) (c : Char) (d : Directive) : Stage → Option (Directive × Stage)
  | .start =>
    if c = '[' then some (d, .span (i + 1))
    else if mayBegin c then some (d, .word i)
    else none
  | .word start =>
    if c = '=' then some ({ d with target := some (slice cs start i) }, .threshold (i + 1))
    else if c = '[' then some ({ d with target := some (slice cs start i) }, .span (i + 1))
    else some (d, .word start)
  | .span start =>
    if c = ']' then some ({ d with inSpan := true }, .level)
    else if c = '\x7b' then
      some ({ d with inSpan := !(slice cs start i).isEmpty }, .field (i + 1))
    else some (d, .span start)
  | .field start =>
    if c = '\x7d' then
      if (slice cs start i).isEmpty then none
      else (FieldTest.parse? (slice cs start i)).map fun f => ({ d with field := some f }, .spanEnd)
    else some (d, .field start)
  | .spanEnd => if c = ']' then some (d, .level) else none
  | .level => if c = '=' then some (d, .threshold (i + 1)) else none
  | .threshold start => some (d, .threshold start)

/-- The directive and the stage after the given characters, the first of which is at place `i`. -/
def run (cs : List Char) (i : Nat) (d : Directive) (s : Stage) :
    List Char → Option (Directive × Stage)
  | [] => some (d, s)
  | c :: rest =>
    match step cs i c d s with
    | some (d, s) => run cs (i + 1) d s rest
    | none => none

def finish (cs : List Char) (d : Directive) : Stage → Option Directive
  | .word start =>
    match threshold? (cs.drop start) with
    | some t => some { d with threshold := t }
    | none => some { d with target := some (cs.drop start) }
  | .threshold start =>
    if cs.drop start = [] then some { d with threshold := some .trace }
    else (threshold? (cs.drop start)).map fun t => { d with threshold := t }
  | .level => some d
  | _ => none

def parse? (cs : List Char) : Option Directive :=
  match run cs 0 {} .start (Text.trimChars cs) with
  | some (d, s) => finish cs d s
  | none => none

/-- Whether a directive depends on more than an event itself. -/
def isDynamic (d : Directive) : Bool :=
  d.inSpan || d.field.any FieldTest.hasValue

def covers (d : Directive) (target : List Char) (fields : List (List Char)) : Bool :=
  !d.isDynamic && d.target.all (fun t => t.isPrefixOf target) &&
    d.field.all (fun f => fields.contains f.name)

/-- The length of the target, a missing one coming before an empty one. -/
def targetRank (d : Directive) : Nat :=
  match d.target with
  | none => 0
  | some t => t.length + 1

/-- The name of the field, a missing one coming before all others. -/
def fieldRank (d : Directive) : List Char :=
  match d.field with
  | none => []
  | some f => '\x00' :: f.name

/-- Whether a directive gives way to another that speaks of the same event: the other has a longer
target, or the same target and a field that comes later in the alphabet. -/
def yieldsTo (d e : Directive) : Bool :=
  decide (d.targetRank < e.targetRank) ||
    (d.targetRank == e.targetRank && !e.fieldRank.lex d.fieldRank)

end Directive

end Egress.LogFilter
