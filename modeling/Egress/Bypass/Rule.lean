import Egress.Bypass.Input
import Egress.Ipv4

/-!
# Rules

A rule has one of five shapes, which follows from its text alone. One of the three names of the own
machine stands for all three; a text with a slash is a block of addresses or nothing; `*.` in front
of a domain means its subdomains without itself; everything else is a name that stands for itself
and its subdomains. A plain address is such a name.

Rules look at a destination: the host of a request in lower case, and its address if the host is a
dotted quad.
-/

namespace Egress.Bypass

/-- The host of a request as rules see it. -/
structure Destination where
  host : String
  ipv4 : Option Ipv4
  deriving Repr, DecidableEq

def Destination.ofHost (host : String) : Destination :=
  let host := Text.lowercase host
  ⟨host, Ipv4.ofQuad? host.toList⟩

/-- What a rule stands for. -/
inductive Shape where
  /-- The own machine under any of its names. -/
  | loopback
  /-- The addresses of a block. -/
  | block (b : Block)
  /-- The hosts that end in a text that begins with a dot. -/
  | wildcard (suffix : String)
  /-- The host that the rule names, and those that end in its text after a dot. -/
  | bare (dotted : String)
  /-- Nothing. -/
  | malformed
  deriving Repr, DecidableEq

structure Rule where
  text : String
  shape : Shape
  deriving Repr, DecidableEq

def ownNames : List String := ["localhost", "127.0.0.1", "::1"]

def isLoopback (host : String) : Bool :=
  host == "localhost" || host == "127.0.0.1" || host == "::1"

theorem isLoopback_eq_false_iff (text : String) :
    isLoopback text = false ↔ text ∉ ownNames := by
  simp [isLoopback, ownNames, and_assoc]

def endsWith (s suffix : String) : Bool :=
  suffix.toList.isSuffixOf s.toList

namespace Shape

def ofSlashed (text : String) : Except AddressError Shape :=
  (Block.parse text).map block

/-- The shape of a text that is neither loopback nor has a slash. -/
def ofName (text : String) : Shape :=
  match text.toList with
  | '*' :: '.' :: domain => wildcard (String.ofList ('.' :: domain))
  | name => bare (String.ofList ('.' :: name))

def classify (text : String) : Shape × Option AddressError :=
  if isLoopback text then (loopback, none)
  else if text.toList.contains '/' then
    match ofSlashed text with
    | .ok s => (s, none)
    | .error e => (malformed, some e)
  else (ofName text, none)

end Shape

namespace Rule

def ofText (text : String) : Rule :=
  ⟨text, (Shape.classify text).1⟩

/-- Makes a rule and reports it if it will never match. -/
def compile (text : String) : Traced Rule :=
  match (Shape.classify text).2 with
  | none => pure (ofText text)
  | some e => do
    Traced.report (.ruleMalformed text e)
    return ofText text

@[simp] theorem compile_value (text : String) : (compile text).value = ofText text := by
  unfold compile
  split <;> rfl

def covers (r : Rule) (d : Destination) : Bool :=
  match r.shape with
  | .loopback => isLoopback d.host
  | .block b => d.ipv4.any b.contains
  | .wildcard suffix => endsWith d.host suffix
  | .bare dotted => d.host == r.text || endsWith d.host dotted
  | .malformed => false

end Rule

def compileAll (texts : List String) : Traced (List Rule) :=
  Traced.all (texts.map Rule.compile)

def rulesOf (input : Input) : Traced (List Rule) :=
  compileAll (normalize input)

def firstMatch (rules : List Rule) (d : Destination) : Option Rule :=
  rules.find? (fun r => r.covers d)

def anyMatch (rules : List Rule) (d : Destination) : Bool :=
  (firstMatch rules d).isSome

end Egress.Bypass
