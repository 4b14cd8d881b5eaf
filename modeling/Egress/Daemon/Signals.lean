import Egress.Traced

/-!
# Signals of the operating system

One signal asks for a reload, two ask for shutdown. The handler works in rounds: it starts to
listen, takes one of the signals that have come since, forgets the others, and acts. Between two
rounds it does not listen, and after a request for shutdown it never does again.
-/

namespace Egress

inductive Signal where
  | hangup
  | terminate
  | interrupt
  deriving Repr, DecidableEq

inductive Demand where
  | reload
  | shutdown
  deriving Repr, DecidableEq

namespace Signal

def demand : Signal → Demand
  | hangup => .reload
  | terminate => .shutdown
  | interrupt => .shutdown

end Signal

inductive SignalHandler where
  /-- Between two rounds. -/
  | away
  /-- Listening, with the signals that have come; one that comes twice counts once. -/
  | listening (pending : List Signal)
  | done
  deriving Repr, DecidableEq

namespace SignalHandler

/-- Starts a round. -/
def listen : SignalHandler → SignalHandler
  | away => listening []
  | h => h

def deliver (h : SignalHandler) (s : Signal) : SignalHandler :=
  match h with
  | listening pending => listening (if pending.contains s then pending else pending ++ [s])
  | h => h

def take (h : SignalHandler) (s : Signal) : SignalHandler × Option Demand :=
  match h with
  | listening pending =>
    if pending.contains s then
      match s.demand with
      | .reload => (away, some .reload)
      | .shutdown => (done, some .shutdown)
    else (h, none)
  | h => (h, none)

/-- One signal that comes when all before it are dealt with, and what the handler makes of it. -/
def handleAlone (h : SignalHandler) (s : Signal) : SignalHandler × Option Demand :=
  let (h, demand) := (h.listen.deliver s).take s
  (h.listen, demand)

end SignalHandler

end Egress
