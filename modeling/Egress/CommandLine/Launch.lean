import Egress.CommandLine.Options
import Egress.Daemon.Basic

/-!
# Launching the daemon

The command line names a settings file and can overrule two of the settings. The settings are
checked before they are overruled. With them the daemon is started on its payload and given an input
up to its end; this module says what such a run prints and logs.
-/

namespace Egress

structure Launch where
  settingsPath : Option String
  payloadPath : Option String
  noWatch : Bool
  deriving Repr, DecidableEq

namespace Launch

open CommandLine

def form : Form :=
  ⟨[⟨"settings", some 's', .path⟩, ⟨"payload", some 'p', .path⟩, ⟨"no-watch", none, .flag⟩], .none⟩

def ofArgs (args : List String) : Except Refusal Launch :=
  (form.read args).map fun found =>
    ⟨found.value? "settings", found.value? "payload", (found.value? "no-watch").isSome⟩

def overrule (l : Launch) (s : Settings) : Settings :=
  { s with payload := { s.payload with
      path := l.payloadPath.getD s.payload.path
      watch := s.payload.watch && !l.noWatch } }

/-- The settings in force, given what leads from the path of the settings file. -/
def settings (l : Launch) (place : String → Place) : Except SettingsError Settings :=
  match l.settingsPath with
  | none => .ok (l.overrule {})
  | some path => (Settings.load (place path)).map l.overrule

end Launch

namespace Settings

/-- Whether the metrics can be offered: their address is one that every machine has. -/
def canOfferMetrics (s : Settings) : Bool :=
  (SocketAddress.parse? s.observability.metricsAddress).any SocketAddress.isOwn

/-- The first events of a daemon with these settings. -/
def opening (s : Settings) : Traced Unit := do
  Traced.report .starting
  if s.observability.metricsEnabled then
    if s.canOfferMetrics then Traced.report .metricsListening
    else Traced.report .metricsUnavailable

/-- How a daemon with these settings begins to serve, in a directory. -/
def watchStep (s : Settings) (d : Directory) : Daemon.Step :=
  if s.payload.watch then
    match Watcher.start d s.payload.path with
    | .ok _ => .watch none
    | .error e => .watch (some e)
  else .skipWatch

/-- The steps of a daemon that gets an input at once and is left alone. -/
def steps (s : Settings) (d : Directory) (input : List UInt8) : List Daemon.Step :=
  [.load, s.watchStep d, .arrive input, .close] ++
    List.replicate (input.count Lines.lineEnd + 2) .read

/-- What a daemon with these settings answers to an input, in a directory. -/
def answers (s : Settings) (d : Directory) (input : List UInt8) : Traced (List String) := do
  s.opening
  let daemon : Daemon := { content := d.place s.payload.path }
  let (_, answers) ← daemon.run (s.steps d input)
  return answers

def logged (s : Settings) (events : List Event) : List Event :=
  events.filter (LogFilter.ofLevel s.observability.logLevel).passes

end Settings

/-- A run of the daemon: how it ends, and its log with the format of the lines. -/
structure DaemonRun where
  outcome : Outcome
  format : LogFormat := .pretty
  log : List Event := []

def Settings.run (s : Settings) (d : Directory) (input : List UInt8) : DaemonRun :=
  let t := s.answers d input
  ⟨.printed (String.join t.value), s.observability.logFormat, s.logged t.events⟩

def Launch.run (args : List String) (d : Directory) (input : List UInt8) : DaemonRun :=
  match Launch.ofArgs args with
  | .error e => { outcome := .refused e }
  | .ok l =>
    match l.settings d.place with
    | .error e => { outcome := .failed (.settings e) }
    | .ok s => s.run d input

end Egress
