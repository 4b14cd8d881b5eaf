import Egress.Decimal.Binary64

/-!
# Metrics

The three figures the program keeps: verdicts counted by their reason, reloads counted by their
result, and the generation of the live snapshot. An update is data; where the figures are added up
is not part of this library. Figures that are set are doubles, so that a large generation is shown
rounded.
-/

namespace Egress

inductive Reason where
  | disabled
  | invalidUrl
  | noHost
  | bypassed
  | noEndpoint
  | proxied
  deriving Repr, DecidableEq

namespace Reason

def label : Reason → String
  | disabled => "disabled"
  | invalidUrl => "invalid_url"
  | noHost => "no_host"
  | bypassed => "bypassed"
  | noEndpoint => "no_endpoint"
  | proxied => "proxied"

/-- The label of the verdict that a reason leads to. -/
def verdictLabel : Reason → String
  | proxied => "proxy"
  | _ => "direct"

end Reason

/-- One update of the figures. -/
inductive Metric where
  | decision (reason : Reason)
  | reload (succeeded : Bool)
  | generation (n : UInt64)
  deriving Repr, DecidableEq

namespace Metric

def name : Metric → String
  | decision _ => "proxy_router_decisions_total"
  | reload _ => "proxy_router_reloads_total"
  | generation _ => "proxy_router_config_generation"

def labels : Metric → List (String × String)
  | decision r => [("verdict", r.verdictLabel), ("reason", r.label)]
  | reload succeeded => [("result", if succeeded then "ok" else "error")]
  | generation _ => []

/-- What is added to a count, or what a gauge is set to. -/
def value : Metric → Nat
  | generation n => (Binary64.ofUInt64 n).whole
  | _ => 1

end Metric

end Egress
