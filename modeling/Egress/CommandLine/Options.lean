import Egress.Settings

/-!
# Reading command lines

A command line is a sequence of options and operands in any order. Options have a long name, and
some have a letter; letters can be joined. A value stands in the same argument, after `=` or right
after the letter, or is the next argument; a next argument that looks like an option is never taken
for a value. After `--` everything is an operand. Arguments are judged from left to right, and the
first that asks for help or is in error decides.
-/

namespace Egress.CommandLine

inductive Kind where
  | flag
  | text
  /-- A text that may not be empty. -/
  | path
  deriving Repr, DecidableEq

structure OptionSpec where
  long : String
  short : Option Char
  kind : Kind
  deriving Repr, DecidableEq

inductive Operands where
  | none
  /-- At most one, which may not be empty. -/
  | path
  | texts
  /-- The first one is a command, to which all that follows belongs. -/
  | command
  deriving Repr, DecidableEq

structure Form where
  options : List OptionSpec
  operands : Operands
  deriving Repr, DecidableEq

inductive Refusal where
  | help
  | usage
  deriving Repr, DecidableEq

/-- What has been found: options by their long names with their values, operands, and the arguments
of a command. -/
structure Found where
  values : List (String × String) := []
  operands : List String := []
  arguments : List String := []
  deriving Repr, DecidableEq

namespace Found

def value? (f : Found) (long : String) : Option String :=
  (f.values.find? (fun v => v.1 == long)).map Prod.snd

/-- Adds an option, which can be given once only. -/
def addOption (f : Found) (o : OptionSpec) (value : List Char) : Except Refusal Found :=
  if (f.value? o.long).isSome || (o.kind == .path && value.isEmpty) then .error .usage
  else .ok { f with values := f.values ++ [(o.long, String.ofList value)] }

def addOperand (f : Found) (form : Form) (operand : String) : Except Refusal Found :=
  let added := { f with operands := f.operands ++ [operand] }
  match form.operands with
  | .texts => .ok added
  | .path => if f.operands.isEmpty && !operand.isEmpty then .ok added else .error .usage
  | _ => .error .usage

end Found

inductive Argument where
  | escape
  | long (name : String) (value : Option (List Char))
  | letters (cs : List Char)
  | operand (text : String)
  deriving Repr, DecidableEq

namespace Argument

/-- The look of an argument. A single hyphen is an operand. -/
def ofText (text : String) : Argument :=
  match text.toList with
  | ['-', '-'] => escape
  | '-' :: '-' :: cs =>
    long (String.ofList (cs.takeWhile (· != '='))) ((cs.dropWhile (· != '=')).tail?)
  | ['-'] => operand text
  | '-' :: cs => letters cs
  | _ => operand text

end Argument

namespace Form

def ofLong? (form : Form) (name : String) : Option OptionSpec :=
  form.options.find? (fun o => o.long == name)

def ofLetter? (form : Form) (c : Char) : Option OptionSpec :=
  form.options.find? (fun o => o.short == some c)

/-- Reads joined letters. An option that still needs its value is given back. -/
def readLetters (form : Form) (f : Found) : List Char → Except Refusal (Found × Option OptionSpec)
  | [] => .ok (f, none)
  | c :: rest =>
    match form.ofLetter? c with
    | none => .error (if c = 'h' then .help else .usage)
    | some o =>
      match o.kind, rest with
      | .flag, rest =>
        match f.addOption o [] with
        | .error e => .error e
        | .ok f => form.readLetters f rest
      | _, [] => .ok (f, some o)
      | _, '=' :: value => (f.addOption o value).map (·, none)
      | _, value => (f.addOption o value).map (·, none)

/-- Reads a long option. An option that still needs its value is given back. -/
def readLong (form : Form) (f : Found) (name : String) (value : Option (List Char)) :
    Except Refusal (Found × Option OptionSpec) :=
  match form.ofLong? name with
  | none => .error (if name = "help" ∧ value = none then .help else .usage)
  | some o =>
    match o.kind, value with
    | .flag, none => (f.addOption o []).map (·, none)
    | .flag, some _ => .error .usage
    | _, none => .ok (f, some o)
    | _, some value => (f.addOption o value).map (·, none)

/-- Reads arguments; `awaiting` is an option that the first of them is the value of. -/
def readFrom (form : Form) (f : Found) (awaiting : Option OptionSpec) :
    List String → Except Refusal Found
  | [] => if awaiting.isSome then .error .usage else .ok f
  | arg :: rest =>
    match awaiting, Argument.ofText arg with
    | some o, .operand text =>
      match f.addOption o text.toList with
      | .error e => .error e
      | .ok f => form.readFrom f none rest
    | some _, _ => .error .usage
    | none, .escape => rest.foldlM (fun f operand => f.addOperand form operand) f
    | none, .long name value =>
      match form.readLong f name value with
      | .error e => .error e
      | .ok (f, awaiting) => form.readFrom f awaiting rest
    | none, .letters cs =>
      match form.readLetters f cs with
      | .error e => .error e
      | .ok (f, awaiting) => form.readFrom f awaiting rest
    | none, .operand text =>
      if form.operands = .command then
        .ok { f with operands := [text], arguments := rest }
      else
        match f.addOperand form text with
        | .error e => .error e
        | .ok f => form.readFrom f none rest

def read (form : Form) (args : List String) : Except Refusal Found :=
  form.readFrom {} none args

end Form

end Egress.CommandLine

/-!
## How a program ends

A program ends with a status, what it has printed, and perhaps a failure. A command line that is not
carried out ends with status 2, unless it only asks for help, and a failure with status 1.
-/

namespace Egress

inductive Failure where
  | load (error : LoadError)
  | settings (error : SettingsError)
  | write
  /-- A file is in the way. -/
  | occupied (path : String)
  deriving Repr, DecidableEq

structure Outcome where
  status : Nat := 0
  output : String := ""
  failure : Option Failure := none
  deriving Repr, DecidableEq

namespace Outcome

def refused : CommandLine.Refusal → Outcome
  | .help => {}
  | .usage => { status := 2 }

def failed (f : Failure) : Outcome :=
  { status := 1, failure := some f }

def printed (output : String) : Outcome :=
  { output := output }

end Outcome

end Egress
