import Egress.Json.Writer
import Egress.Url

/-!
# Log events

Everything the program reports while it works, as data: the cause of a report with the values it
names. The level, the wording, the fields and the place in the program that a filter goes by are
functions of the cause. How a log line looks is not part of this library.
-/

namespace Egress

/-- How serious an event is, the gravest first. -/
inductive Level where
  | error
  | warn
  | info
  | debug
  | trace
  deriving Repr, DecidableEq

namespace Level

/-- The place of a level in the order of its verbosity; zero is kept for no level at all. -/
def rank : Level → Nat
  | error => 1
  | warn => 2
  | info => 3
  | debug => 4
  | trace => 5

def name : Level → String
  | error => "ERROR"
  | warn => "WARN"
  | info => "INFO"
  | debug => "DEBUG"
  | trace => "TRACE"

end Level

inductive Event where
  | entryIgnored (entry : Json)
  | listIgnored (list : Json)
  | ruleMalformed (rule : String) (error : AddressError)
  | payloadNotObject (payload : Json)
  | modeUnknown (mode : String)
  | enabledNotBool (value : Json)
  | flagNotBool (field : String) (value : Json)
  | hostNotText (field : String) (value : Json)
  | portInvalid (field : String)
  | nestedPayload
  | hydrated
  | urlInvalid (url : String) (error : UrlError)
  | hostMissing
  | ruleMatched
  | endpointMissing
  | lineUndecodable (line : String) (error : Text.Utf8.Fault)
  | swapped
  | changeDetected
  | changeRejected
  | watching
  | metricsListening
  | metricsUnavailable
  | shutdownRequested
  | reloadSignal
  | shutdownSignal
  | starting
  | payloadUnreadable
  | watchUnavailable
  | reloadFailed
  | inputClosed
  | stopped
  deriving Repr, BEq

namespace Event

def level : Event → Level
  | nestedPayload | hydrated | hostMissing | ruleMatched | endpointMissing => .debug
  | swapped | changeDetected | watching | metricsListening | shutdownRequested | reloadSignal
  | shutdownSignal | starting | inputClosed | stopped => .info
  | changeRejected | metricsUnavailable | reloadFailed => .error
  | _ => .warn

def message : Event → String
  | entryIgnored _ => "Ignoring non-scalar bypass entry"
  | listIgnored _ => "bypassList is an object, ignoring it"
  | ruleMalformed _ _ => "Bypass rule will never match"
  | payloadNotObject _ => "Configuration payload is not an object, using defaults"
  | modeUnknown _ => "Unknown proxy mode, treating as disabled"
  | enabledNotBool _ => "proxyEnabled is not a boolean, treating as disabled"
  | flagNotBool _ _ => "Expected a boolean, using false"
  | hostNotText _ _ => "Proxy host is not a string, disabling endpoint"
  | portInvalid _ => "Invalid proxy port, disabling endpoint"
  | nestedPayload => "Using nested proxySettings payload"
  | hydrated => "Hydrated routing config"
  | urlInvalid _ _ => "Unparsable destination, going direct"
  | hostMissing => "Destination has no host, going direct"
  | ruleMatched => "Bypass rule matched"
  | endpointMissing => "No endpoint configured, going direct"
  | lineUndecodable _ _ => "Undecodable destination, going direct"
  | swapped => "Routing config swapped"
  | changeDetected => "Payload change detected, reloading"
  | changeRejected => "Failed to reload payload, keeping current configuration"
  | watching => "Payload watcher started"
  | metricsListening => "Metrics endpoint listening"
  | metricsUnavailable => "Failed to install metrics exporter"
  | shutdownRequested => "Shutdown requested"
  | reloadSignal => "SIGHUP received, reloading payload"
  | shutdownSignal => "Shutdown signal received"
  | starting => "proxy-router starting"
  | payloadUnreadable => "Cannot read payload, starting with proxying disabled"
  | watchUnavailable => "Payload watcher unavailable, hot reload disabled"
  | reloadFailed => "Reload failed, keeping current configuration"
  | inputClosed => "Input closed"
  | stopped => "Shutdown complete"

def fields : Event → List (String × String)
  | entryIgnored v => [("entry", v.compact)]
  | listIgnored v => [("bypass_list", v.compact)]
  | ruleMalformed rule e => [("rule", rule), ("error", e.message)]
  | payloadNotObject v => [("payload", v.compact)]
  | modeUnknown m => [("mode", m)]
  | enabledNotBool v => [("proxy_enabled", v.compact)]
  | flagNotBool field v => [("field", field), ("value", v.compact)]
  | hostNotText field v => [("field", field), ("value", v.compact)]
  | portInvalid field => [("field", field)]
  | urlInvalid url e => [("url", url), ("error", e.message)]
  | lineUndecodable line e => [("line", line), ("error", e.message)]
  | _ => []

/-- The names of all values that an event carries, its wording included. -/
def fieldNames (e : Event) : List String :=
  "message" :: match e with
    | portInvalid _ => ["field", "value"]
    | nestedPayload => ["endpoint"]
    | hydrated => ["enabled", "http", "https", "bypass_rules"]
    | hostMissing => ["url"]
    | ruleMatched => ["host", "rule"]
    | endpointMissing => ["host", "scheme"]
    | swapped => ["generation", "enabled", "bypass_rules"]
    | changeDetected => ["path", "kind"]
    | watching => ["path", "dir"]
    | metricsListening => ["address"]
    | metricsUnavailable => ["address", "error"]
    | starting => ["version"]
    | payloadUnreadable => ["path", "error"]
    | changeRejected | watchUnavailable | reloadFailed => ["error"]
    | stopped => ["generation", "signalled"]
    | e => e.fields.map Prod.fst

/-- The part of the program that an event comes from, as filters name it. -/
def target : Event → String
  | entryIgnored _ | listIgnored _ => "proxy_router::bypass::normalize"
  | ruleMalformed _ _ => "proxy_router::bypass::rule"
  | payloadNotObject _ | modeUnknown _ | enabledNotBool _ | flagNotBool _ _ | hostNotText _ _
  | portInvalid _ | nestedPayload | hydrated => "proxy_router::config::hydrate"
  | urlInvalid _ _ | hostMissing | ruleMatched | endpointMissing => "proxy_router::routing::router"
  | lineUndecodable _ _ | swapped => "proxy_router::routing::state"
  | changeDetected | changeRejected | watching => "proxy_router::config::watcher"
  | metricsListening | metricsUnavailable => "proxy_router::observability::metrics"
  | shutdownRequested => "proxy_router::lifecycle::shutdown"
  | reloadSignal | shutdownSignal => "proxy_router::lifecycle::signals"
  | starting | payloadUnreadable | watchUnavailable | reloadFailed | inputClosed | stopped =>
    "proxy_router"

/-- Whether an event tells of something wrong. -/
def isAlarm (e : Event) : Bool :=
  decide (e.level.rank ≤ Level.warn.rank)

end Event

end Egress
