import Egress.Daemon.Lines
import Egress.Daemon.Shutdown
import Egress.Daemon.Signals
import Egress.Daemon.Watch
import Egress.Live

/-!
# The daemon

The daemon answers lines of input from the live snapshot, and three others work beside it: whoever
changes the payload file, the watcher that looks at the file after a change, and the handler of
signals. They meet in queues. Nothing is said about who is next: a run is any sequence of the steps
below, and a step that is not possible when its turn comes does nothing.

The daemon starts by loading the payload, then starts the watcher, and then serves its queues and
its input until one of them tells it to end. Whatever it takes from a queue breaks off the read
under way.
-/

namespace Egress

/-- How far the daemon has come. -/
inductive Stage where
  | fresh
  | loaded
  | serving
  | ended
  deriving Repr, DecidableEq

structure Daemon where
  stage : Stage := .fresh
  /-- What the path of the payload leads to. -/
  content : Place
  /-- Whether changes of the payload are noticed. -/
  watching : Bool := false
  /-- The number of changes that the watcher has been told of and has not looked at. -/
  notices : Nat := 0
  /-- The snapshots that the watcher has passed on, the first one first. -/
  updates : List Config := []
  handler : SignalHandler := .away
  /-- The number of reloads that signals have asked for. -/
  reloads : Nat := 0
  shutdown : Shutdown := {}
  live : Live := Live.vacant
  lines : Lines := {}
  deriving Repr, DecidableEq

namespace Daemon

inductive Step where
  /-- Another file takes the place of the payload; the system tells of it once or more often. -/
  | replace (content : Place) (more : Nat)
  /-- The payload is removed. -/
  | remove
  /-- The daemon loads the payload for the first time. -/
  | load
  /-- The daemon starts the watcher and the handler of signals, or does without a watcher. -/
  | watch (result : Option WatchError)
  /-- The same without any wish to watch. -/
  | skipWatch
  /-- The watcher looks at the payload because of a change. -/
  | look
  | signal (s : Signal)
  /-- The handler starts to listen. -/
  | listen
  /-- The handler takes a signal that has come. -/
  | handle (s : Signal)
  /-- The daemon takes a snapshot that was passed on. -/
  | update
  /-- The daemon reloads because a signal has asked for it. -/
  | reload
  | arrive (piece : List UInt8)
  /-- The input ends. -/
  | close
  /-- The daemon goes on reading, and answers a line if it is complete. -/
  | read
  /-- The daemon looks for the announcement of a shutdown. -/
  | stop
  deriving Repr, DecidableEq

/-- What a step leads to: the daemon after it, and the answer it gave, if any. -/
abbrev Result := Traced (Daemon × Option String)

/-- Loads the payload for the first time. A payload that cannot be loaded counts as null. -/
def load (d : Daemon) : Result :=
  match Payload.load d.content with
  | .ok config => do
    let live ← config >>= d.live.replace
    return ({ d with stage := .loaded, live := live }, none)
  | .error _ => do
    Traced.report .payloadUnreadable
    let live ← d.live.apply .null
    return ({ d with stage := .loaded, live := live }, none)

/-- The daemon that has begun to serve; it is the first to subscribe to the shutdown. -/
def serve (d : Daemon) (watching : Bool) : Daemon :=
  { d with
    stage := .serving
    watching := watching
    handler := d.handler.listen
    shutdown := d.shutdown.subscribe }

/-- Starts to serve, with or without a watcher. -/
def watch (d : Daemon) : Option WatchError → Result
  | none => do
    Traced.report .watching
    return (d.serve true, none)
  | some _ => do
    Traced.report .watchUnavailable
    return (d.serve false, none)

def look (d : Daemon) : Result := do
  let config ← Watcher.reload d.content
  return ({ d with notices := d.notices - 1, updates := d.updates ++ config.toList }, none)

def meet (d : Daemon) (handler : SignalHandler) : Demand → Result
  | .reload => do
    Traced.report .reloadSignal
    return ({ d with handler := handler, reloads := d.reloads + 1 }, none)
  | .shutdown => do
    Traced.report .shutdownSignal
    let shutdown ← d.shutdown.trigger
    return ({ d with handler := handler, shutdown := shutdown }, none)

def update (d : Daemon) : Result :=
  match d.updates with
  | [] => pure (d, none)
  | config :: rest => do
    let live ← d.live.replace config
    return ({ d with updates := rest, live := live, lines := d.lines.interrupt }, none)

/-- The daemon reloads the payload; if that fails, the live snapshot stays as it is. -/
def reload (d : Daemon) : Result :=
  match d.live.reload d.content with
  | .ok live => do
    let live ← live
    return ({ d with reloads := d.reloads - 1, live := live, lines := d.lines.interrupt }, none)
  | .error _ => do
    Traced.report .reloadFailed
    return ({ d with reloads := d.reloads - 1, lines := d.lines.interrupt }, none)

/-- The daemon goes on reading and answers what a read that is over leaves. A read that has taken
nothing has met the end of the input, and the daemon ends; there may still be bytes to answer then,
which earlier reads have taken before they were broken off. -/
def read (d : Daemon) : Result :=
  match d.lines.read with
  | (lines, none) => pure ({ d with lines := lines }, none)
  | (lines, some taken) => do
    let answer ← d.live.answer lines.partialLine
    let d := { d with lines := lines.clear }
    if taken = 0 then
      Traced.report .inputClosed
      Traced.report .stopped
      return ({ d with stage := .ended }, answer)
    else return (d, answer)

/-- The daemon ends if a shutdown has been announced. -/
def stop (d : Daemon) : Result :=
  let (shutdown, receipt) := d.shutdown.receive 0
  if receipt = some .message then do
    Traced.report .stopped
    return ({ d with stage := .ended, shutdown := shutdown }, none)
  else pure ({ d with shutdown := shutdown }, none)

def serviceStep (d : Daemon) : Step → Result
  | .signal s => pure ({ d with handler := d.handler.deliver s }, none)
  | .listen => pure ({ d with handler := d.handler.listen }, none)
  | .handle s =>
    match d.handler.take s with
    | (_, none) => pure (d, none)
    | (handler, some demand) => d.meet handler demand
  | .update => d.update
  | .reload => if d.reloads = 0 then pure (d, none) else d.reload
  | .read => d.read
  | .stop => d.stop
  | _ => pure (d, none)

/-- One step. Files change, the watcher looks at them and input arrives at any time; the rest has
its stage. -/
def step (d : Daemon) (s : Step) : Result :=
  match s with
  | .replace content more =>
    let told := if d.watching then more + 1 else 0
    pure ({ d with content := content, notices := d.notices + told }, none)
  | .remove => pure ({ d with content := .vacant }, none)
  | .look => if d.notices = 0 then pure (d, none) else d.look
  | .arrive piece => pure ({ d with lines := d.lines.arrive piece }, none)
  | .close => pure ({ d with lines := d.lines.close }, none)
  | s =>
    match d.stage, s with
    | .fresh, .load => d.load
    | .loaded, .watch result => d.watch result
    | .loaded, .skipWatch => pure (d.serve false, none)
    | .serving, s => d.serviceStep s
    | _, _ => pure (d, none)

def run : Daemon → List Step → Traced (Daemon × List String) :=
  Traced.run Option.toList step

end Daemon

end Egress
