import Egress.Config
import Egress.Json.Writer

/-!
# Verdicts

How a destination is to be reached: directly, or through one of some proxies tried in order. Written
out, a verdict is a list of hops that always ends with the direct one, since a request falls back to
it when no proxy answers.
-/

namespace Egress

inductive Verdict where
  | direct
  | proxy (targets : List Endpoint)
  deriving Repr, DecidableEq

inductive Hop where
  | http (endpoint : Endpoint)
  | direct
  deriving Repr, DecidableEq

/-- A hop as a JSON object, its type first. -/
def Hop.json : Hop → Json
  | http e => .object [
      ("type", .string "http"), ("host", .string e.host), ("port", Json.ofNat e.port.toNat)]
  | direct => .object [("type", .string "direct")]

namespace Verdict

/-- Whether no proxy is to be tried. -/
def isDirect : Verdict → Bool
  | direct => true
  | proxy _ => false

def primary : Verdict → Option Endpoint
  | direct => none
  | proxy targets => targets.head?

/-- The proxies in order, and the direct way at the end. -/
def hops : Verdict → List Hop
  | direct => [.direct]
  | proxy targets => targets.map .http ++ [.direct]

def json (v : Verdict) : Json :=
  .array (v.hops.map Hop.json)

end Verdict

end Egress
