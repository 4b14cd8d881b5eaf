import Egress.Traced

/-!
# The shutdown signal

A shutdown is announced once, over a channel that keeps its last message for all who had subscribed
when it was sent. Every subscriber sees it once. The channel has room for one message only, so a
subscriber could miss one if a second were sent; none is, whatever is asked of the shutdown.
-/

namespace Egress

/-- A channel to many subscribers, all of whose messages are alike. -/
structure Channel where
  /-- Whether there is still somebody who can send. -/
  isOpen : Bool := true
  /-- The number of messages sent. -/
  sent : Nat := 0
  /-- For every subscriber the number of messages that are behind it. -/
  passed : List Nat := []
  deriving Repr, DecidableEq

inductive Receipt where
  | message
  | empty
  | lagged
  | closed
  deriving Repr, DecidableEq

namespace Channel

/-- Adds a subscriber, for whom all messages so far are behind. -/
def subscribe (c : Channel) : Channel :=
  { c with passed := c.passed ++ [c.sent] }

/-- Sends a message if there is somebody to receive it. -/
def send (c : Channel) : Channel :=
  if c.passed.isEmpty then c else { c with sent := c.sent + 1 }

/-- What a subscriber with `n` messages behind it finds: the last message if it is the next one, and
nothing if there is none; if there are more, the earlier ones are lost. -/
def lookFrom (c : Channel) (n : Nat) : Receipt :=
  if c.sent ≤ n then if c.isOpen then .empty else .closed
  else if c.sent = n + 1 then .message
  else .lagged

/-- The number of messages behind a subscriber after it has looked. A subscriber that has lost some
goes on with the last one. -/
def passedAfter (c : Channel) (n : Nat) : Nat :=
  match c.lookFrom n with
  | .message => n + 1
  | .lagged => c.sent - 1
  | _ => n

/-- Lets a subscriber look without waiting. -/
def receive (c : Channel) (subscriber : Nat) : Channel × Option Receipt :=
  match c.passed[subscriber]? with
  | none => (c, none)
  | some n => ({ c with passed := c.passed.set subscriber (c.passedAfter n) }, some (c.lookFrom n))

end Channel

structure Shutdown where
  triggered : Bool := false
  channel : Channel := {}
  deriving Repr, DecidableEq

namespace Shutdown

def subscribe (s : Shutdown) : Shutdown :=
  { s with channel := s.channel.subscribe }

/-- Announces the shutdown, the first time only. -/
def trigger (s : Shutdown) : Traced Shutdown :=
  if s.triggered then pure s
  else do
    Traced.report .shutdownRequested
    return ⟨true, s.channel.send⟩

def receive (s : Shutdown) (subscriber : Nat) : Shutdown × Option Receipt :=
  let (channel, receipt) := s.channel.receive subscriber
  ({ s with channel := channel }, receipt)

inductive Request where
  | subscribe
  | trigger
  | receive (subscriber : Nat)
  deriving Repr, DecidableEq

/-- Handles a request; only a look has a receipt. -/
def step (s : Shutdown) : Request → Traced (Shutdown × Option Receipt)
  | .subscribe => pure (s.subscribe, none)
  | .trigger => (fun s => (s, none)) <$> s.trigger
  | .receive subscriber => pure (s.receive subscriber)

def run : Shutdown → List Request → Traced (Shutdown × List (Option Receipt)) :=
  Traced.run (fun receipt => [receipt]) step

end Shutdown

end Egress
