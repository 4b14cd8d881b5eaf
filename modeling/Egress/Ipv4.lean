import Egress.Text.Quoted

/-!
# IPv4 addresses and blocks

An address is a word of 32 bits. Its text is the dotted quad: four decimal groups of value at most
255, in which leading zeros are allowed and never mean octal. A block is a base address with the
number of leading bits that its members share with the base; the base itself may have further bits
set.

No other spelling of an address is accepted here; the spellings that a URL may use are read
elsewhere.
-/

namespace Egress

/-- An IPv4 address, its first octet in the most significant bits. -/
structure Ipv4 where
  bits : UInt32
  deriving Repr, DecidableEq, Inhabited

/-- Why a text is no address or no block. Each error carries the text at fault. -/
inductive AddressError where
  | notAnAddress (text : String)
  | badLength (text : String)
  deriving Repr, DecidableEq

namespace AddressError

def message : AddressError → String
  | notAnAddress t => "not an IPv4 address: " ++ Text.quoted t
  | badLength t => "invalid CIDR prefix length: " ++ Text.quoted t

end AddressError

namespace Ipv4

def ofNat (n : Nat) : Ipv4 := ⟨UInt32.ofNat n⟩

def toNat (a : Ipv4) : Nat := a.bits.toNat

def ofOctets (a b c d : Nat) : Ipv4 :=
  ofNat (((a * 256 + b) * 256 + c) * 256 + d)

/-- The octets of an address, the most significant first. -/
def octets (a : Ipv4) : List Nat :=
  [a.toNat / 0x1000000, a.toNat / 0x10000 % 0x100, a.toNat / 0x100 % 0x100, a.toNat % 0x100]

/-- The value of a group of decimal digits that is not empty and at most 255. -/
def octet? (cs : List Char) : Option Nat :=
  if cs.isEmpty || !cs.all Char.isDigit then none
  else
    let n := Nat.ofDigitChars 10 cs 0
    if n ≤ 255 then some n else none

/-- The address that a dotted quad writes. -/
def ofQuad? (cs : List Char) : Option Ipv4 :=
  match (cs.splitOn '.').map octet? with
  | [some a, some b, some c, some d] => some (ofOctets a b c d)
  | _ => none

def parse (text : String) : Except AddressError Ipv4 :=
  match ofQuad? text.toList with
  | some a => .ok a
  | none => .error (.notAnAddress text)

/-- The dotted quad of an address, without superfluous zeros. -/
def quad (a : Ipv4) : List Char :=
  ['.'].intercalate (a.octets.map (Nat.toDigits 10))

def text (a : Ipv4) : String :=
  String.ofList a.quad

end Ipv4

/-- A block of addresses: those that share the first `length` bits with `base`. Lengths above 32
mean 32. -/
structure Block where
  base : Ipv4
  length : Nat
  deriving Repr, DecidableEq

namespace Block

/-- The word whose first `length` bits are set. -/
def mask (length : Nat) : UInt32 :=
  if length = 0 then 0 else 0xFFFFFFFF <<< UInt32.ofNat (32 - min length 32)

def contains (b : Block) (a : Ipv4) : Bool :=
  a.bits &&& mask b.length == b.base.bits &&& mask b.length

/-- The number of shared bits: one or two decimal digits of value at most 32. -/
def length? (cs : List Char) : Option Nat :=
  if cs.isEmpty || 2 < cs.length || !cs.all Char.isDigit then none
  else
    let n := Nat.ofDigitChars 10 cs 0
    if n ≤ 32 then some n else none

/-- Reads an address, a slash and a length. A text without a slash and one with a bad length are
reported whole, one with a bad address by the part before its first slash. -/
def parse (text : String) : Except AddressError Block :=
  let cs := text.toList
  match cs.dropWhile (· != '/') with
  | [] => .error (.badLength text)
  | _ :: length =>
    match Ipv4.parse (String.ofList (cs.takeWhile (· != '/'))) with
    | .error e => .error e
    | .ok base =>
      match length? length with
      | some n => .ok ⟨base, n⟩
      | none => .error (.badLength text)

end Block

end Egress
