import Egress.Text.CaseTable

/-!
# Normal forms of text

Texts arrive with blanks around them and in any letter case. A character is blank when it has the
Unicode property White_Space; the zero-width space and the byte order mark are not blank. Trimming
takes blank characters off both ends of a text and leaves its inside alone.

Lower-casing is that of full Unicode. Every character is mapped by itself, except `Σ`, whose form
depends on what stands around it: it is `ς` at the end of a word and `σ` elsewhere. Whether it ends
a word is read off the whole text, so the lower case of a text is not the concatenation of the lower
cases of its parts.
-/

namespace Egress.Text

/-! ## Blanks -/

/-- Whether a character has the property White_Space. -/
def isBlank (c : Char) : Bool :=
  let n := c.toNat
  (9 ≤ n && n ≤ 13) || n == 32 || n == 0x85 || n == 0xA0 || n == 0x1680 ||
    (0x2000 ≤ n && n ≤ 0x200A) || n == 0x2028 || n == 0x2029 || n == 0x202F || n == 0x205F ||
    n == 0x3000

/-- The list without its longest final part that satisfies `p`. -/
def dropLastWhile (p : Char → Bool) (cs : List Char) : List Char :=
  (cs.reverse.dropWhile p).reverse

def trimChars (cs : List Char) : List Char :=
  dropLastWhile isBlank (cs.dropWhile isBlank)

def trim (s : String) : String :=
  String.ofList (trimChars s.toList)

def allBlank (s : String) : Bool :=
  s.toList.all isBlank

/-! ## Lower case -/

def isCased (c : Char) : Bool :=
  casedRanges.any (fun r => decide (r.1 ≤ c.toNat) && decide (c.toNat ≤ r.2))

def isCaseIgnorable (c : Char) : Bool :=
  caseIgnorableRanges.any (fun r => decide (r.1 ≤ c.toNat) && decide (c.toNat ≤ r.2))

/-- The lower-case form of a character with a simple mapping; other characters stay. -/
def lowerSimple (c : Char) : Char :=
  if c.toNat < 128 then
    if 'A' ≤ c ∧ c ≤ 'Z' then Char.ofNat (c.toNat + 32) else c
  else
    match lowerRuns.find? (fun r => r.holds c.toNat) with
    | some r => Char.ofNat (c.toNat + r.shift).toNat
    | none => c

/-- The lower-case form of a character outside any context. -/
def lowerChar (c : Char) : List Char :=
  if c = 'İ' then ['i', '\u0307'] else [lowerSimple c]

/-- Whether the first character that is not case-ignorable is cased. -/
def meetsCased (cs : List Char) : Bool :=
  match cs.dropWhile isCaseIgnorable with
  | c :: _ => isCased c
  | [] => false

/-- Whether a position is at the end of a word: going back one meets a cased character, and going
on one does not. The characters before it are given nearest first. -/
def endsWord (before after : List Char) : Bool :=
  meetsCased before && !meetsCased after

/-- The lower case of a list of characters that stands after `before`, given nearest first. -/
def lowercaseAfter (before : List Char) : List Char → List Char
  | [] => []
  | c :: rest =>
    let image := if c = 'Σ' then [if endsWord before rest then 'ς' else 'σ'] else lowerChar c
    image ++ lowercaseAfter (c :: before) rest

def lowercaseChars (cs : List Char) : List Char :=
  lowercaseAfter [] cs

def lowercase (s : String) : String :=
  String.ofList (lowercaseChars s.toList)

/-! ## Names

Host names and rules are typed with spaces around them, in any letter case, and with the dot that
ends a fully qualified name. Their normal form has none of these. Blanks are taken off before the
dot, so a blank in front of the dot stays, and of several dots only the last one goes.
-/

/-- The characters without a dot at their end; of several dots one is taken off. -/
def withoutDot (cs : List Char) : List Char :=
  if cs.getLast? = some '.' then cs.dropLast else cs

def normalChars (cs : List Char) : List Char :=
  lowercaseChars (withoutDot (trimChars cs))

/-- The normal form of a name: trimmed, without one dot at its end, and in lower case. -/
def normalName (s : String) : String :=
  String.ofList (normalChars s.toList)

end Egress.Text
