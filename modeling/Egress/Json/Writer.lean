import Egress.Json.Basic

/-!
# Writing JSON

Two forms of a value: the compact one without any blank, and the pretty one with every item on a
line of its own, indented by two spaces for each enclosing container. Only quotation marks,
backslashes and control characters below the space are escaped; all other characters are written as
they are.
-/

namespace Egress.Json

def unicodeEscape (c : Char) : List Char :=
  ['\\', 'u', '0', '0', Nat.digitChar (c.toNat / 16), Nat.digitChar (c.toNat % 16)]

def escapeChar (c : Char) : List Char :=
  if c = '"' then ['\\', '"']
  else if c = '\\' then ['\\', '\\']
  else if c = '\x08' then ['\\', 'b']
  else if c = '\t' then ['\\', 't']
  else if c = '\n' then ['\\', 'n']
  else if c = '\x0c' then ['\\', 'f']
  else if c = '\r' then ['\\', 'r']
  else if c.toNat < 32 then unicodeEscape c
  else [c]

def stringChars (s : String) : List Char :=
  '"' :: (s.toList.flatMap escapeChar ++ ['"'])

def boolChars (b : Bool) : List Char :=
  if b then ['t', 'r', 'u', 'e'] else ['f', 'a', 'l', 's', 'e']

def nullChars : List Char := ['n', 'u', 'l', 'l']

mutual

def compactChars : Json → List Char
  | null => nullChars
  | bool b => boolChars b
  | number n => n.chars
  | string s => stringChars s
  | array [] => ['[', ']']
  | array (v :: rest) => '[' :: (compactChars v ++ compactItems rest ++ [']'])
  | object [] => ['\x7b', '\x7d']
  | object ((k, v) :: rest) =>
    '\x7b' :: (stringChars k ++ ':' :: compactChars v ++ compactMembers rest ++ ['\x7d'])

def compactItems : List Json → List Char
  | [] => []
  | v :: rest => ',' :: (compactChars v ++ compactItems rest)

def compactMembers : List (String × Json) → List Char
  | [] => []
  | (k, v) :: rest => ',' :: (stringChars k ++ ':' :: compactChars v ++ compactMembers rest)

end

/-- A line end and the indentation of the given depth. -/
def lineBreak (depth : Nat) : List Char :=
  '\n' :: List.replicate (2 * depth) ' '

mutual

def prettyChars (depth : Nat) : Json → List Char
  | null => nullChars
  | bool b => boolChars b
  | number n => n.chars
  | string s => stringChars s
  | array [] => ['[', ']']
  | array (v :: rest) =>
    '[' :: (lineBreak (depth + 1) ++ prettyChars (depth + 1) v ++ prettyItems (depth + 1) rest ++
      lineBreak depth ++ [']'])
  | object [] => ['\x7b', '\x7d']
  | object ((k, v) :: rest) =>
    '\x7b' :: (lineBreak (depth + 1) ++ stringChars k ++ ':' :: ' ' :: prettyChars (depth + 1) v ++
      prettyMembers (depth + 1) rest ++ lineBreak depth ++ ['\x7d'])

/-- Further items, each after a comma and on a line of its own. -/
def prettyItems (depth : Nat) : List Json → List Char
  | [] => []
  | v :: rest => ',' :: (lineBreak depth ++ prettyChars depth v ++ prettyItems depth rest)

def prettyMembers (depth : Nat) : List (String × Json) → List Char
  | [] => []
  | (k, v) :: rest =>
    ',' :: (lineBreak depth ++ stringChars k ++ ':' :: ' ' :: prettyChars depth v ++
      prettyMembers depth rest)

end

def compact (v : Json) : String :=
  String.ofList (compactChars v)

def pretty (v : Json) : String :=
  String.ofList (prettyChars 0 v)

end Egress.Json
