import Egress.Live

/-!
# Sessions

A session is the live snapshot together with the snapshots that somebody still holds. Held snapshots
are never touched: they can be asked, shown, and made live again as a copy.
-/

namespace Egress

/-- The live snapshot and the held ones, the first held first. -/
structure Session where
  live : Live
  held : List Config
  deriving Repr, DecidableEq

/-- What can be done in a session. -/
inductive Request where
  | apply (payload : Json)
  | reload (place : Place)
  | route (url : String)
  | line (bytes : List UInt8)
  | hold
  | routeHeld (index : Nat) (url : String)
  | showHeld (index : Nat)
  | restoreHeld (index : Nat)
  | show
  deriving Repr

inductive Reply where
  | swapped (generation : UInt64)
  | failed (error : LoadError)
  | verdict (v : Verdict)
  | answer (line : Option String)
  | held (index : Nat)
  | config (c : Config)
  | nothingHeld
  deriving Repr, DecidableEq

namespace Session

def ofPayload (payload : Json) : Traced Session :=
  (fun live => ⟨live, []⟩) <$> Live.ofPayload payload

/-- The session in which the live state is another one, with the generation handed out for it as the
reply. -/
def swappedTo (s : Session) (live : Live) : Session × Reply :=
  ({ s with live := live }, .swapped live.last)

def withHeld (s : Session) (index : Nat) (f : Config → Traced (Session × Reply)) :
    Traced (Session × Reply) :=
  match s.held[index]? with
  | some c => f c
  | none => pure (s, .nothingHeld)

def step (s : Session) : Request → Traced (Session × Reply)
  | .apply payload => s.swappedTo <$> s.live.apply payload
  | .reload place =>
    match s.live.reload place with
    | .ok live => s.swappedTo <$> live
    | .error e => pure (s, .failed e)
  | .route url => (fun v => (s, .verdict v)) <$> s.live.route url
  | .line bytes => (fun a => (s, .answer a)) <$> s.live.answer bytes
  | .hold => pure ({ s with held := s.held ++ [s.live.current] }, .held s.held.length)
  | .routeHeld index url => s.withHeld index fun c => (fun v => (s, .verdict v)) <$> c.route url
  | .showHeld index => s.withHeld index fun c => pure (s, .config c)
  | .restoreHeld index => s.withHeld index fun c => s.swappedTo <$> s.live.replace c
  | .show => pure (s, .config s.live.current)

def run : Session → List Request → Traced (Session × List Reply) :=
  Traced.run (fun reply => [reply]) step

end Session

end Egress
