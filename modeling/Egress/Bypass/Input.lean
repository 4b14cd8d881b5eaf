import Egress.Text.Normal
import Egress.Traced

/-!
# The bypass list as it is given

People give the rules as a list, as one text with commas or line ends between the rules, or not at
all. Whatever the form, the rules in force are the six built-in ones, followed by the canonical
forms of the given ones in order, each once and none of them empty.

A rule is kept in its canonical form: the normal form of a name, without the dots in front that some
people write to mean a domain with all its subdomains. The dots are taken off after the normal form
is made, and the blanks they uncover after that.
-/

namespace Egress.Bypass

def canonicalChars (cs : List Char) : List Char :=
  Text.trimChars ((Text.normalChars cs).dropWhile (· == '.'))

/-- The canonical form of a rule; it is empty if nothing is left. -/
def canonical (token : String) : String :=
  String.ofList (canonicalChars token.toList)

/-- The rules that are always in force. -/
def defaults : List String :=
  ["localhost", "127.0.0.1", "::1", "127.0.0.0/8", "192.168.1.0/24", "net.nz"]

inductive Input where
  | list (tokens : List String)
  | delimited (text : String)
  | absent
  deriving Repr, DecidableEq

/-- The text of an entry of a list; null gives none, and containers are reported and give none. -/
def entryText : Json → Traced (Option String)
  | .string s => pure (some s)
  | .number n => pure (some n.text)
  | .bool b => pure (some (toString b))
  | .null => pure none
  | v => do
    Traced.report (.entryIgnored v)
    return none

def entryTexts : List Json → Traced (List String)
  | [] => pure []
  | v :: rest => do
    let text ← entryText v
    let texts ← entryTexts rest
    return text.toList ++ texts

namespace Input

/-- Reads the rules from a value: texts hold several rules, lists one in each entry, and numbers and
truth values are rules by themselves. -/
def ofJson : Option Json → Traced Input
  | none | some .null => pure absent
  | some (.string s) => pure (delimited s)
  | some (.array items) => list <$> entryTexts items
  | some (.number n) => pure (list [n.text])
  | some (.bool b) => pure (list [toString b])
  | some (.object ms) => do
    Traced.report (.listIgnored (.object ms))
    return absent

def isSeparator (c : Char) : Bool := c == ',' || c == '\n'

def tokens : Input → List String
  | list ts => ts
  | delimited s => (s.toList.splitOnP isSeparator).map String.ofList
  | absent => []

end Input

/-- The texts that are not among those `seen` and do not occur before in the list. -/
def distinctFrom (seen : List String) : List String → List String
  | [] => []
  | t :: rest =>
    if seen.contains t then distinctFrom seen rest
    else t :: distinctFrom (t :: seen) rest

/-- The rules in force. -/
def normalize (input : Input) : List String :=
  distinctFrom [] (((defaults ++ input.tokens).map canonical).filter (fun t => !t.isEmpty))

/-- The rules that are not built in. -/
def userRules (rules : List String) : List String :=
  rules.filter (fun r => !(defaults.map canonical).contains r)

end Egress.Bypass
