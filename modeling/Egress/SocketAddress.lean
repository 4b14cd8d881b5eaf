import Egress.Ipv6

/-!
# Socket addresses

An address with a port: a dotted quad without superfluous zeros, or an IPv6 address in brackets,
perhaps with a decimal zone, then a colon and a decimal port.
-/

namespace Egress

/-- An address with a port. -/
inductive SocketAddress where
  | v4 (address : Ipv4) (port : Nat)
  | v6 (address : Ipv6) (zone : Nat) (port : Nat)
  deriving Repr, DecidableEq

namespace SocketAddress

/-- The value of decimal digits, if there are any and it is below a bound. -/
def decimalBelow? (bound : Nat) (cs : List Char) : Option Nat :=
  if cs.isEmpty || !cs.all Char.isDigit then none
  else
    let n := Nat.ofDigitChars 10 cs 0
    if n < bound then some n else none

def port? : List Char → Option Nat
  | ':' :: cs => decimalBelow? 0x10000 cs
  | _ => none

/-- Reads a zone with its percent sign; a missing zone is zero. -/
def zone? : List Char → Option Nat
  | [] => some 0
  | _ :: cs => decimalBelow? 0x100000000 cs

/-- The address of a quad without superfluous zeros. -/
def plainQuad? (cs : List Char) : Option Ipv4 :=
  match (cs.splitOn '.').map Ipv6.plainOctet? with
  | [some a, some b, some c, some d] => some (Ipv4.ofOctets a b c d)
  | _ => none

/-- Reads what follows the opening bracket. -/
def bracketed? (cs : List Char) : Option SocketAddress :=
  let inside := cs.takeWhile (· != ']')
  match Ipv6.parse? (inside.takeWhile (· != '%')), zone? (inside.dropWhile (· != '%')),
    port? ((cs.dropWhile (· != ']')).drop 1) with
  | some a, some zone, some port => some (v6 a zone port)
  | _, _, _ => none

def parse? (text : String) : Option SocketAddress :=
  match text.toList with
  | '[' :: cs => bracketed? cs
  | cs =>
    match plainQuad? (cs.takeWhile (· != ':')), port? (cs.dropWhile (· != ':')) with
    | some a, some port => some (v4 a port)
    | _, _ => none

/-- Whether every machine has an address: it is a loopback address, or stands for all addresses of
the machine. -/
def isOwn : SocketAddress → Bool
  | v4 a _ => a.toNat == 0 || a.toNat / 0x1000000 == 127
  | v6 a _ _ => a.groups == [0, 0, 0, 0, 0, 0, 0, 0] || a.groups == [0, 0, 0, 0, 0, 0, 0, 1]

end SocketAddress

end Egress
