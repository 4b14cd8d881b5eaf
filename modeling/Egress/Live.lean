import Egress.Load
import Egress.Route

/-!
# The live snapshot

One snapshot is live at a time. It is replaced whole, and every replacement gives the new snapshot
the next generation, whatever generation it had before. The generations are counted apart from the
snapshots. A payload that cannot be loaded replaces nothing.
-/

namespace Egress

/-- The live snapshot, and the generation that was handed out last. -/
structure Live where
  current : Config
  last : UInt64
  deriving Repr, DecidableEq

namespace Live

def generation (l : Live) : UInt64 := l.current.generation

def replace (l : Live) (c : Config) : Traced Live := do
  let n := l.last + 1
  Traced.report .swapped
  Traced.record (.generation n)
  return ⟨c.stamped n, n⟩

/-- What is live before any snapshot is given. -/
def vacant : Live := ⟨{}, 0⟩

def ofConfig (c : Config) : Traced Live :=
  vacant.replace c

def ofPayload (payload : Json) : Traced Live :=
  Payload.hydrate payload >>= ofConfig

/-- The state that starts when nothing is given. -/
def unconfigured : Traced Live :=
  ofPayload .null

def apply (l : Live) (payload : Json) : Traced Live :=
  Payload.hydrate payload >>= l.replace

def reload (l : Live) (place : Place) : Except LoadError (Traced Live) :=
  (Payload.load place).map fun c => c >>= l.replace

def route (l : Live) (url : String) : Traced Verdict :=
  l.current.route url

def answerLine (v : Verdict) : String :=
  v.json.compact ++ "\n"

/-- The answer to one line of input. Blank lines have none. A line that is not UTF-8 is reported and
answered directly, without a decision that would be counted. -/
def answer (l : Live) (line : List UInt8) : Traced (Option String) :=
  match Text.Utf8.decode line with
  | .ok text =>
    let url := Text.trim text
    if url.isEmpty then pure none
    else (fun v => some (answerLine v)) <$> l.route url
  | .error e => do
    Traced.report (.lineUndecodable (Text.trim (Text.Utf8.decodeLenient line)) e)
    return some (answerLine .direct)

end Live

end Egress
