import Egress.Ipv4
import Egress.Text.CodeRange

/-!
# IPv6 addresses

An address is eight groups of 16 bits. In its text a run of groups that are zero may be left out
once, as `::`, and the last two groups may be written as a dotted quad. The text that is written
leaves out the longest run of at least two zero groups, the first one of several, and writes a
dotted quad only for an IPv4 address mapped into IPv6.
-/

namespace Egress

/-- An IPv6 address by its eight groups. -/
structure Ipv6 where
  groups : List Nat
  deriving Repr, DecidableEq

namespace Ipv6

/-- The value of one to four hexadecimal digits. -/
def group? (cs : List Char) : Option Nat :=
  if cs.isEmpty || 4 < cs.length || !cs.all (fun c => (Text.hexValue? c).isSome) then none
  else some (Text.hexNumber cs)

/-- The value of a decimal group of a quad, which has no superfluous zeros here. -/
def plainOctet? (cs : List Char) : Option Nat :=
  match cs with
  | '0' :: _ :: _ => none
  | _ => Ipv4.octet? cs

def quadGroups? (cs : List Char) : Option (List Nat) :=
  match (cs.splitOn '.').map plainOctet? with
  | [some a, some b, some c, some d] => some [a * 256 + b, c * 256 + d]
  | _ => none

/-- The groups of pieces between colons; only the last piece may be a quad, and only where `quad`
allows it. -/
def groups? (quad : Bool) : List (List Char) → Option (List Nat)
  | [] => some []
  | [p] => if quad && p.contains '.' then quadGroups? p else (group? p).map ([·])
  | p :: rest =>
    match group? p with
    | none => none
    | some n => (groups? quad rest).map (n :: ·)

/-- The groups of one side of the place where groups are left out; that side may be empty. -/
def sideGroups? (quad : Bool) (cs : List Char) : Option (List Nat) :=
  if cs.isEmpty then some [] else groups? quad (cs.splitOn ':')

/-- The parts in front of and behind the first `::`. -/
def splitElision : List Char → Option (List Char × List Char)
  | [] => none
  | [_] => none
  | a :: b :: rest =>
    if a = ':' ∧ b = ':' then some ([], rest)
    else (splitElision (b :: rest)).map fun (left, right) => (a :: left, right)

def parse? (cs : List Char) : Option Ipv6 :=
  match splitElision cs with
  | none =>
    match groups? true (cs.splitOn ':') with
    | some gs => if gs.length = 8 then some ⟨gs⟩ else none
    | none => none
  | some (left, right) =>
    match sideGroups? false left, sideGroups? true right with
    | some l, some r =>
      if l.length + r.length ≤ 7 then
        some ⟨l ++ List.replicate (8 - l.length - r.length) 0 ++ r⟩
      else none
    | _, _ => none

def zerosAhead (gs : List Nat) : Nat :=
  (gs.takeWhile (· == 0)).length

/-- The place and length of the longest run of zeros, the first one of several; `start` is the place
of the list's head. -/
def longestZeros (start : Nat) : List Nat → Nat × Nat
  | [] => (start, 0)
  | g :: rest =>
    let here := zerosAhead (g :: rest)
    let (place, size) := longestZeros (start + 1) rest
    if size ≤ here then (start, here) else (place, size)

def groupChars (gs : List Nat) : List Char :=
  [':'].intercalate (gs.map (Nat.toDigits 16))

def chars (a : Ipv6) : List Char :=
  match a.groups with
  | [0, 0, 0, 0, 0, 0xFFFF, g, h] =>
    [':', ':', 'f', 'f', 'f', 'f', ':'] ++ (Ipv4.ofNat (g * 65536 + h)).quad
  | gs =>
    let (place, size) := longestZeros 0 gs
    if 1 < size then groupChars (gs.take place) ++ [':', ':'] ++ groupChars (gs.drop (place + size))
    else groupChars gs

def text (a : Ipv6) : String :=
  String.ofList a.chars

end Ipv6

end Egress
