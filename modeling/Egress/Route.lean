import Egress.Config
import Egress.Verdict

/-!
# Decisions

A decision is made from a snapshot and the text of a URL alone. It is direct unless everything
speaks for the proxy: proxying is on, the text is a URL with a host, no rule covers the host, and
there is an endpoint for the scheme. Every decision updates the count of verdicts once.
-/

namespace Egress

/-- What the rules look at in a URL; an IPv6 address is written without brackets. -/
def Url.destination? (u : Url) : Option Bypass.Destination :=
  u.host.map fun h => Bypass.Destination.ofHost h.text

def destinationOf? (url : String) : Option Bypass.Destination :=
  match Url.parse url with
  | .ok u => u.destination?
  | .error _ => none

namespace Config

/-- The endpoint for a scheme: only `https` has one of its own. -/
def endpointFor (c : Config) (scheme : String) : Option Endpoint :=
  if scheme = "https" then c.httpsEndpoint else c.http

/-- The verdict on a host that is to be reached with the given scheme, and its reason. -/
def decideHost (c : Config) (scheme : String) (d : Bypass.Destination) :
    Traced (Verdict × Reason) :=
  if Bypass.anyMatch c.bypass d then do
    Traced.report .ruleMatched
    return (.direct, .bypassed)
  else
    match c.endpointFor scheme with
    | some e => pure (.proxy [e], .proxied)
    | none => do
      Traced.report .endpointMissing
      return (.direct, .noEndpoint)

def decide (c : Config) (url : String) : Traced (Verdict × Reason) :=
  if c.enabled then
    match Url.parse url with
    | .error e => do
      Traced.report (.urlInvalid url e)
      return (.direct, .invalidUrl)
    | .ok u =>
      match u.destination? with
      | none => do
        Traced.report .hostMissing
        return (.direct, .noHost)
      | some d => c.decideHost u.scheme d
  else pure (.direct, .disabled)

/-- The verdict on a URL, counted by its reason. -/
def route (c : Config) (url : String) : Traced Verdict := do
  let (verdict, reason) ← c.decide url
  Traced.record (.decision reason)
  return verdict

/-- Whether the rules cover the host of a URL, be proxying on or off. -/
def isBypassed (c : Config) (url : String) : Bool :=
  (destinationOf? url).any (Bypass.anyMatch c.bypass)

end Config

end Egress
