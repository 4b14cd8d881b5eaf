import Egress.Bypass.Rule

/-!
# The routing snapshot

All that a decision needs. A snapshot is never changed, only replaced whole; its generation tells
which replacement it came with, and is zero before it is live.

Proxies are named by their endpoints. An endpoint that could not be connected to, because its host
is empty or its port zero, is none.
-/

namespace Egress

structure Endpoint where
  host : String
  port : UInt16
  deriving Repr, DecidableEq

namespace Endpoint

/-- The endpoint of a host and a port, if neither is missing. -/
def ofParts? (host : String) (port : UInt16) : Option Endpoint :=
  if host.isEmpty || port == 0 then none else some ⟨host, port⟩

def text (e : Endpoint) : String :=
  e.host ++ ":" ++ String.ofList (Nat.toDigits 10 e.port.toNat)

end Endpoint

structure Config where
  enabled : Bool := false
  http : Option Endpoint := none
  https : Option Endpoint := none
  useHttpForHttps : Bool := false
  bypass : List Bypass.Rule := []
  generation : UInt64 := 0
  deriving Repr, DecidableEq

namespace Config

def httpsEndpoint (c : Config) : Option Endpoint :=
  if c.useHttpForHttps then c.http else c.https

def ruleTexts (c : Config) : List String :=
  c.bypass.map Bypass.Rule.text

/-- The same snapshot with a generation of its own. -/
def stamped (c : Config) (generation : UInt64) : Config :=
  { c with generation := generation }

end Config

end Egress
