import Egress.Toml.Quoted
import Egress.Toml.Scalar

/-!
# Reading TOML

A document is a sequence of lines: headers, entries, comments and blank lines. A value may reach
over several lines if it is an array or a string with tripled marks. The reader accepts a document
or refuses it; where and why it is refused is not told.
-/

namespace Egress.Toml

/-- What is read, and the text after it. -/
abbrev Step (α : Type) := Option (α × List Char)

/-- Whether a character parts words within a line. -/
def isGap (c : Char) : Bool := c == ' ' || c == '\t'

def skipGap (cs : List Char) : List Char := cs.dropWhile isGap

def expect (c : Char) : List Char → Option (List Char)
  | d :: rest => if d = c then some rest else none
  | [] => none

/-- The text without gaps, line ends and comments at its head. -/
def skipLines (inComment : Bool) : List Char → Option (List Char)
  | [] => some []
  | c :: rest =>
    if c = '\n' then skipLines false rest
    else if c = '\r' then if rest.head? = some '\n' then skipLines false rest else none
    else if inComment then if isPlain c then skipLines true rest else none
    else if isGap c then skipLines false rest
    else if c = '#' then skipLines true rest
    else some (c :: rest)

def skipComment : List Char → List Char
  | '#' :: rest => rest.dropWhile isPlain
  | cs => cs

/-- The text after the end of a line that has nothing but a comment left. -/
def endLine (cs : List Char) : Option (List Char) :=
  match skipComment (skipGap cs) with
  | [] => some []
  | '\n' :: rest => some rest
  | '\r' :: '\n' :: rest => some rest
  | _ => none

def isBareKeyChar (c : Char) : Bool := c.isAlphanum || c == '-' || c == '_'

def readKeyPart (cs : List Char) : Step String :=
  match cs with
  | '"' :: rest => (readBasic 0 rest).map fun (s, rest) => (String.ofList s, rest)
  | '\'' :: rest => (readLiteral rest).map fun (s, rest) => (String.ofList s, rest)
  | cs =>
    let part := cs.takeWhile isBareKeyChar
    if part.isEmpty then none else some (String.ofList part, cs.dropWhile isBareKeyChar)

/-- The number of containers that may be nested, and of parts that a key may have. -/
def depthLimit : Nat := 79

/-- Reads a key of at most `room` parts with dots between them. -/
def readKeyParts : Nat → List Char → Step (List String)
  | 0, _ => none
  | room + 1, cs =>
    match readKeyPart (skipGap cs) with
    | none => none
    | some (part, rest) =>
      match skipGap rest with
      | '.' :: rest => (readKeyParts room rest).map fun (parts, rest) => (part :: parts, rest)
      | rest => some ([part], rest)

def readKey (cs : List Char) : Step (List String) :=
  readKeyParts depthLimit cs

mutual

/-- Reads a value in which at most `room` further containers may be nested. -/
def readValue (room : Nat) : Nat → List Char → Step Toml
  | 0, _ => none
  | fuel + 1, cs =>
    match cs with
    | '[' :: rest =>
      if room = 0 then none
      else (readItems (room - 1) fuel rest).map fun (vs, rest) => (array vs, rest)
    | '\x7b' :: rest =>
      if room = 0 then none
      else
        match readPairs (room - 1) fuel rest with
        | none => none
        | some (pairs, rest) => (inlineTable? pairs).map (·, rest)
    | c :: rest =>
      if c = '"' ∨ c = '\'' then
        (readString (c :: rest)).map fun (s, rest) => (string (String.ofList s), rest)
      else readScalar (c :: rest)
    | [] => none

/-- Reads the items of an array up to its end. A comma may follow the last one. -/
def readItems (room : Nat) : Nat → List Char → Step (List Toml)
  | 0, _ => none
  | fuel + 1, cs =>
    match skipLines false cs with
    | none => none
    | some (']' :: rest) => some ([], rest)
    | some cs =>
      match readValue room fuel cs with
      | none => none
      | some (v, rest) =>
        match skipLines false rest with
        | some (']' :: rest) => some ([v], rest)
        | some (',' :: rest) => (readItems room fuel rest).map fun (vs, rest) => (v :: vs, rest)
        | _ => none

def readPairs (room : Nat) : Nat → List Char → Step (List (List String × Toml))
  | 0, _ => none
  | fuel + 1, cs =>
    match skipGap cs with
    | '\x7d' :: rest => some ([], rest)
    | cs => readMorePairs room fuel cs

/-- Reads at least one entry of an inline table, and all others up to its end. No comma may follow
the last one. -/
def readMorePairs (room : Nat) : Nat → List Char → Step (List (List String × Toml))
  | 0, _ => none
  | fuel + 1, cs =>
    match readEntry room fuel cs with
    | none => none
    | some (p, rest) =>
      match skipGap rest with
      | '\x7d' :: rest => some ([p], rest)
      | ',' :: rest => (readMorePairs room fuel rest).map fun (ps, rest) => (p :: ps, rest)
      | _ => none

def readEntry (room : Nat) : Nat → List Char → Step (List String × Toml)
  | 0, _ => none
  | fuel + 1, cs =>
    match readKey cs with
    | some (key, '=' :: rest) =>
      (readValue room fuel (skipGap rest)).map fun (v, rest) => ((key, v), rest)
    | _ => none

end

/-- A measure of work that no text of this length exceeds. -/
def fuelFor (cs : List Char) : Nat := 4 * cs.length + 4

def readHeader (cs : List Char) : Step Statement :=
  match cs with
  | '[' :: '[' :: rest =>
    match readKey rest with
    | some (path, ']' :: ']' :: rest) => some (.element path, rest)
    | _ => none
  | '[' :: rest =>
    match readKey rest with
    | some (path, ']' :: rest) => some (.table path, rest)
    | _ => none
  | _ => none

def readStatement (cs : List Char) : Step Statement :=
  let body :=
    match cs with
    | '[' :: _ => readHeader cs
    | _ => (readEntry depthLimit (fuelFor cs) cs).map fun ((key, v), rest) => (.entry key v, rest)
  match body with
  | none => none
  | some (s, rest) => (endLine rest).map (s, ·)

/-- Reads the lines of a document; every line that says something takes at least one character. -/
def readStatements : Nat → List Char → Option (List Statement)
  | 0, _ => none
  | fuel + 1, cs =>
    match skipLines false cs with
    | none => none
    | some [] => some []
    | some cs =>
      match readStatement cs with
      | none => none
      | some (s, rest) => (readStatements fuel rest).map (s :: ·)

def skipMark : List Char → List Char
  | '\uFEFF' :: rest => rest
  | cs => cs

def parse (text : String) : Option Entries :=
  let cs := skipMark text.toList
  (readStatements (cs.length + 1) cs).bind ofStatements

end Egress.Toml
