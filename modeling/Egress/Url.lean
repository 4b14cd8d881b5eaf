import Egress.Domain.Ascii
import Egress.Ipv6
import Egress.Text.Utf8

/-!
# URLs

Of a URL only the scheme and the host are kept, but the text is accepted or refused as a whole. For
the schemes that name servers on the net (`http`, `https`, `ws`, `wss`, `ftp`) and for `file` the
host is a domain name in ASCII form or an address in any of its numeric spellings; for all other
schemes it is opaque text. Path, query and fragment cannot make a URL invalid and are not looked at,
except for the drive letter that takes away the host of a `file` URL.
-/

namespace Egress

inductive Host where
  | domain (name : String)
  | ipv4 (address : Ipv4)
  | ipv6 (address : Ipv6)
  deriving Repr, DecidableEq

namespace Host

/-- The text of a host; an IPv6 address has no brackets. -/
def text : Host → String
  | domain name => name
  | ipv4 a => a.text
  | ipv6 a => a.text

end Host

inductive UrlError where
  | emptyHost
  | invalidDomainName
  | invalidPort
  | invalidIpv4
  | invalidIpv6
  | invalidDomainCharacter
  | noScheme
  deriving Repr, DecidableEq

namespace UrlError

def message : UrlError → String
  | emptyHost => "empty host"
  | invalidDomainName => "invalid international domain name"
  | invalidPort => "invalid port number"
  | invalidIpv4 => "invalid IPv4 address"
  | invalidIpv6 => "invalid IPv6 address"
  | invalidDomainCharacter => "invalid domain character"
  | noScheme => "relative URL without a base"

end UrlError

/-- The scheme of a URL, in lower case, and its host. -/
structure Url where
  scheme : String
  host : Option Host
  deriving Repr, DecidableEq

namespace Url

/-- How a scheme has its authority written. -/
inductive SchemeClass where
  | net
  | file
  | opaqueHost
  deriving Repr, DecidableEq

namespace SchemeClass

def of (scheme : List Char) : SchemeClass :=
  if scheme = "file".toList then file
  else if
      ["http".toList, "https".toList, "ws".toList, "wss".toList, "ftp".toList].contains scheme then
    net
  else opaqueHost

/-- Whether a backslash counts as a slash. -/
def isSpecial : SchemeClass → Bool
  | opaqueHost => false
  | _ => true

end SchemeClass

/-- Whether a character is taken off both ends of the text: a control character or the space. -/
def isEdge (c : Char) : Bool := decide (c.toNat ≤ 32)

/-- Whether a character is taken out of the text wherever it stands. -/
def isIgnored (c : Char) : Bool := c == '\t' || c == '\n' || c == '\r'

def relevant (cs : List Char) : List Char :=
  ((cs.dropWhile isEdge).reverse.dropWhile isEdge).reverse.filter (fun c => !isIgnored c)

def isSchemeChar (c : Char) : Bool :=
  c.isAlphanum || c == '+' || c == '-' || c == '.'

/-- The scheme in lower case, and what follows its colon. -/
def splitScheme (cs : List Char) : Option (List Char × List Char) :=
  match cs with
  | [] => none
  | c :: _ =>
    if c.isAlpha then
      match cs.dropWhile isSchemeChar with
      | ':' :: rest => some ((cs.takeWhile isSchemeChar).map Char.toLower, rest)
      | _ => none
    else none

def endsAuthority (k : SchemeClass) (c : Char) : Bool :=
  c == '/' || c == '?' || c == '#' || (k.isSpecial && c == '\\')

def startsAtEnd (k : SchemeClass) : List Char → Bool
  | c :: _ => endsAuthority k c
  | [] => false

/-- What follows the user information, and whether there is any. User information reaches to the
last `@` of the authority; a lone colon counts as none. -/
def skipUser (k : SchemeClass) (cs : List Char) : Except UrlError (Bool × List Char) :=
  let authority := cs.takeWhile (fun c => !endsAuthority k c)
  if authority.contains '@' then
    let host := (authority.reverse.takeWhile (· != '@')).reverse
    let user := authority.take (authority.length - host.length - 1)
    let rest := host ++ cs.drop authority.length
    if user.isEmpty then
      if startsAtEnd k rest then .error .emptyHost else .ok (false, rest)
    else .ok (user != [':'], rest)
  else .ok (false, cs)

/-- The text of the host, and what follows it. A colon between brackets belongs to the host. -/
def spanHost (k : SchemeClass) (inside : Bool) : List Char → List Char × List Char
  | [] => ([], [])
  | c :: rest =>
    if (c = ':' ∧ ¬ inside) ∨ endsAuthority k c then ([], c :: rest)
    else
      let inside := if c = '[' then true else if c = ']' then false else inside
      let (host, rest) := spanHost k inside rest
      (c :: host, rest)

/-- The byte that `%` and two hexadecimal digits at the head of the bytes stand for. -/
def escapedByte? : List UInt8 → Option UInt8
  | a :: h :: l :: _ =>
    if a = 37 then
      match Text.hexValue? (Char.ofNat h.toNat), Text.hexValue? (Char.ofNat l.toNat) with
      | some h, some l => some (UInt8.ofNat (16 * h + l))
      | _, _ => none
    else none
  | _ => none

/-- The bytes that remain after skipping `skip` of them, escapes being decoded. -/
def percentDecodeAfter : Nat → List UInt8 → List UInt8
  | _, [] => []
  | skip + 1, _ :: rest => percentDecodeAfter skip rest
  | 0, a :: rest =>
    match escapedByte? (a :: rest) with
    | some b => b :: percentDecodeAfter 2 rest
    | none => a :: percentDecodeAfter 0 rest

def percentDecode (bs : List UInt8) : List UInt8 :=
  percentDecodeAfter 0 bs

/-- A part of a numeric host: digits in base 8, 10 or 16 by what they begin with; `none` if it is no
number, and `0x` alone is zero. -/
def numberPart? (cs : List Char) : Option Nat :=
  match cs with
  | [] => none
  | '0' :: x :: ds =>
    if x = 'x' ∨ x = 'X' then
      if ds.all (fun c => (Text.hexValue? c).isSome) then some (Text.hexNumber ds) else none
    else if (x :: ds).all (fun c => decide ('0' ≤ c) && decide (c ≤ '7')) then
      some (Nat.ofDigitChars 8 (x :: ds) 0)
    else none
  | ds => if ds.all Char.isDigit then some (Nat.ofDigitChars 10 ds 0) else none

/-- The parts of a host between dots, without one empty part at its end. -/
def hostParts (cs : List Char) : List (List Char) :=
  let parts := cs.splitOn '.'
  if parts.getLast? = some [] then parts.dropLast else parts

/-- Whether a host has to be an address because its last part is a number. -/
def endsInNumber (cs : List Char) : Bool :=
  match (hostParts cs).getLast? with
  | none => false
  | some part => (!part.isEmpty && part.all Char.isDigit) || (numberPart? part).isSome

/-- The address of numbers of which the last fills all octets that the others leave. -/
def addressOf? (numbers : List Nat) : Option Ipv4 :=
  match numbers.reverse with
  | [] => none
  | last :: before =>
    if 3 < before.length ∨ Nat.pow 256 (4 - before.length) ≤ last ∨ before.any (255 < ·) then none
    else
      let high := before.reverse.foldl (fun n m => 256 * n + m) 0
      some (Ipv4.ofNat (high * Nat.pow 256 (4 - before.length) + last))

def numbers? : List (List Char) → Option (List Nat)
  | [] => some []
  | p :: rest =>
    match numberPart? p with
    | none => none
    | some n => (numbers? rest).map (n :: ·)

def ipv4Host? (cs : List Char) : Option Ipv4 :=
  (numbers? (hostParts cs)).bind addressOf?

def bracketed (cs : List Char) : Except UrlError Host :=
  match cs.getLast? with
  | some ']' =>
    match Ipv6.parse? (cs.drop 1).dropLast with
    | some a => .ok (.ipv6 a)
    | none => .error .invalidIpv6
  | _ => .error .invalidIpv6

/-- The host of a scheme that names servers, or of `file`. -/
def serverHost (cs : List Char) : Except UrlError Host :=
  if cs.head? = some '[' then bracketed cs
  else
    match Text.Utf8.decode (percentDecode (Text.Utf8.encodeChars cs)) with
    | .error _ => .error .invalidDomainName
    | .ok name =>
      match Domain.toAscii? name.toList with
      | none => .error .invalidDomainName
      | some name =>
        if name.isEmpty then .error .emptyHost
        else if endsInNumber name then
          match ipv4Host? name with
          | some a => .ok (.ipv4 a)
          | none => .error .invalidIpv4
        else .ok (.domain (String.ofList name))

/-- Whether a character may not stand in an opaque host. -/
def isForbidden (c : Char) : Bool :=
  ['\x00', '\t', '\n', '\r', ' ', '#', '/', ':', '<', '>', '?', '@', '[', '\\', ']', '^',
    '|'].contains c

def upperHexDigit (n : Nat) : Char :=
  (Nat.digitChar n).toUpper

def percentEncodeByte (b : UInt8) : List Char :=
  ['%', upperHexDigit (b.toNat / 16), upperHexDigit (b.toNat % 16)]

/-- A character of an opaque host: controls and everything beyond ASCII become bytes. -/
def opaqueChar (c : Char) : List Char :=
  if c.toNat < 32 ∨ 126 < c.toNat then (String.utf8EncodeChar c).flatMap percentEncodeByte
  else [c]

/-- The host of any other scheme; an empty one is none. -/
def opaqueHost (cs : List Char) : Except UrlError (Option Host) :=
  if cs.head? = some '[' then (bracketed cs).map some
  else if cs.any isForbidden then .error .invalidDomainCharacter
  else if cs.isEmpty then .ok none
  else .ok (some (.domain (String.ofList (cs.flatMap opaqueChar))))

/-- Whether what follows a host is a port in order, or no port at all. -/
def portInOrder : List Char → Bool
  | ':' :: rest =>
    let digits := rest.takeWhile Char.isDigit
    let stops := match rest.dropWhile Char.isDigit with
      | [] => true
      | c :: _ => c == '/' || c == '\\' || c == '?' || c == '#'
    stops && decide (Nat.ofDigitChars 10 digits 0 ≤ 65535)
  | _ => true

def isDriveLetter : List Char → Bool
  | [c, d] => c.isAlpha && (d == ':' || d == '|')
  | _ => false

def isDot (part : List Char) : Bool :=
  [".".toList, "%2e".toList].contains (part.map Char.toLower)

def isDoubleDot (part : List Char) : Bool :=
  ["..".toList, ".%2e".toList, "%2e.".toList, "%2e%2e".toList].contains (part.map Char.toLower)

/-- Whether a drive letter comes to stand first in a path, of which `depth` parts are above it. -/
def meetsDrive (depth : Nat) : List (List Char) → Bool
  | [] => false
  | part :: rest =>
    if isDoubleDot part then meetsDrive (depth - 1) rest
    else if isDot part then meetsDrive depth rest
    else (depth == 0 && isDriveLetter part) || meetsDrive (depth + 1) rest

def pathParts (cs : List Char) : List (List Char) :=
  let path := cs.takeWhile (fun c => c != '?' && c != '#')
  let path := match path with
    | c :: rest => if c = '/' ∨ c = '\\' then rest else c :: rest
    | [] => []
  path.splitOnP (fun c => c == '/' || c == '\\')

/-- The host of a `file` URL, given what follows its two slashes. -/
def fileHost (cs : List Char) : Except UrlError (Option Host) :=
  let host := cs.takeWhile (fun c => !endsAuthority .file c)
  if host.isEmpty || isDriveLetter host then .ok none
  else
    match serverHost host with
    | .error e => .error e
    | .ok h =>
      if h = .domain "localhost" then .ok none
      else if meetsDrive 0 (pathParts (cs.drop host.length)) then .ok none
      else .ok (some h)

/-- The host of an authority, for all schemes but `file`. -/
def authorityHost (k : SchemeClass) (cs : List Char) : Except UrlError (Option Host) :=
  match skipUser k cs with
  | .error e => .error e
  | .ok (hasUser, cs) =>
    let (host, rest) := spanHost k false cs
    let parsed : Except UrlError (Option Host) :=
      if k.isSpecial then
        if host.isEmpty then .error .emptyHost else (serverHost host).map some
      else opaqueHost host
    match parsed with
    | .error e => .error e
    | .ok none =>
      if rest.head? = some ':' then .error .emptyHost
      else if hasUser then .error .emptyHost
      else .ok none
    | .ok (some h) => if portInOrder rest then .ok (some h) else .error .invalidPort

def isSlash (c : Char) : Bool := c == '/' || c == '\\'

/-- The host, given the class of the scheme and what follows its colon. -/
def hostAfter (k : SchemeClass) (cs : List Char) : Except UrlError (Option Host) :=
  match k with
  | .net => authorityHost .net (cs.dropWhile isSlash)
  | .file =>
    match cs with
    | a :: b :: rest => if isSlash a && isSlash b then fileHost rest else .ok none
    | _ => .ok none
  | .opaqueHost =>
    match cs with
    | '/' :: '/' :: rest => authorityHost .opaqueHost rest
    | _ => .ok none

def parse (text : String) : Except UrlError Url :=
  match splitScheme (relevant text.toList) with
  | none => .error .noScheme
  | some (scheme, rest) =>
    (hostAfter (SchemeClass.of scheme) rest).map fun host => ⟨String.ofList scheme, host⟩

end Url

end Egress
