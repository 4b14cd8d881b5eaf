import Egress.LogFilter.Basic
import Egress.Load
import Egress.SocketAddress
import Egress.Toml.Reader

/-!
# Settings of the daemon

Settings are read from a TOML document in two sections. Every section and every field may be missing
and then has its default; unknown ones are overlooked. A section is a table, or an array with the
values of its fields in their order. After reading, the settings are checked for sense, and all that
is wrong is reported at once.
-/

namespace Egress

inductive LogFormat where
  | pretty
  | json
  deriving Repr, DecidableEq

/-- Where the payload is and how it is watched. -/
structure PayloadSettings where
  path : String := "proxy-payload.json"
  watch : Bool := true
  pollIntervalSecs : Nat := 2
  deriving Repr, DecidableEq

/-- What is logged, and where the metrics are offered. -/
structure ObservabilitySettings where
  logLevel : String := "info"
  logFormat : LogFormat := .pretty
  metricsEnabled : Bool := false
  metricsAddress : String := "127.0.0.1:9090"
  deriving Repr, DecidableEq

structure Settings where
  payload : PayloadSettings := {}
  observability : ObservabilitySettings := {}
  deriving Repr, DecidableEq

inductive SettingsFault where
  | emptyPath
  | zeroInterval
  | badLogLevel (level : String)
  | badMetricsAddress (address : String)
  deriving Repr, DecidableEq

def SettingsFault.message : SettingsFault → String
  | emptyPath => "payload.path must not be empty"
  | zeroInterval => "payload.poll_interval_secs must be greater than 0"
  | badLogLevel level => "observability.log_level " ++ Text.quoted level ++ " is not a valid filter"
  | badMetricsAddress address =>
    "observability.metrics_address " ++ Text.quoted address ++ " is not a socket address"

inductive SettingsError where
  | io (error : ReadError)
  | toml
  | invalid (faults : List SettingsFault)
  deriving Repr, DecidableEq

/-- The wording of an error; none for a document that is refused. -/
def SettingsError.message : SettingsError → Option String
  | io e => some ("IO error: " ++ e.message)
  | toml => none
  | invalid faults =>
    some ("Validation failed: " ++ ", ".intercalate (faults.map SettingsFault.message))

namespace Settings

/-- The values given for fields, in the order of the fields. A date counts as a table without any of
them. -/
def fieldValues? (fields : List String) : Toml → Option (List (Option Toml))
  | .table _ entries => some (fields.map fun f => Toml.lookup f entries)
  | .array items => some (fields.zipIdx.map fun f => items[f.2]?)
  | .tables elements =>
    some (fields.zipIdx.map fun f => elements[f.2]?.map (Toml.table .header))
  | .date => some (fields.map fun _ => none)
  | _ => none

def readOr {α : Type} (absent : α) (read : Toml → Option α) : Option Toml → Option α
  | none => some absent
  | some v => read v

def readString : Toml → Option String
  | .string s => some s
  | _ => none

def readBool : Toml → Option Bool
  | .boolean b => some b
  | _ => none

def readNat : Toml → Option Nat
  | .integer n => if 0 ≤ n then some n.toNat else none
  | _ => none

def isEmptyContainer : Toml → Bool
  | .array [] | .table _ [] | .tables [] => true
  | _ => false

def formatOfName? : String → Option LogFormat
  | "pretty" => some .pretty
  | "json" => some .json
  | _ => none

/-- A format by its name, or as a table that holds nothing but its name with an empty value. -/
def readFormat : Toml → Option LogFormat
  | .string s => formatOfName? s
  | .table _ [(name, v)] => if isEmptyContainer v then formatOfName? name else none
  | _ => none

def readPayload (v : Toml) : Option PayloadSettings := do
  let absent : PayloadSettings := {}
  match ← fieldValues? ["path", "watch", "poll_interval_secs"] v with
  | [path, watch, interval] =>
    return {
      path := ← readOr absent.path readString path
      watch := ← readOr absent.watch readBool watch
      pollIntervalSecs := ← readOr absent.pollIntervalSecs readNat interval }
  | _ => none

def readObservability (v : Toml) : Option ObservabilitySettings := do
  let absent : ObservabilitySettings := {}
  match ← fieldValues? ["log_level", "log_format", "metrics_enabled", "metrics_address"] v with
  | [level, format, enabled, address] =>
    return {
      logLevel := ← readOr absent.logLevel readString level
      logFormat := ← readOr absent.logFormat readFormat format
      metricsEnabled := ← readOr absent.metricsEnabled readBool enabled
      metricsAddress := ← readOr absent.metricsAddress readString address }
  | _ => none

def ofToml? (entries : Toml.Entries) : Option Settings := do
  let payload ← readOr {} readPayload (Toml.lookup "payload" entries)
  let observability ← readOr {} readObservability (Toml.lookup "observability" entries)
  return ⟨payload, observability⟩

/-- All that makes no sense in settings, in a fixed order. An interval counts only if the payload is
watched, an address only if metrics are offered. -/
def faults (s : Settings) : List SettingsFault :=
  (if Text.allBlank s.payload.path then [.emptyPath] else []) ++
  (if s.payload.watch && s.payload.pollIntervalSecs == 0 then [.zeroInterval] else []) ++
  (if (LogFilter.parse? s.observability.logLevel).isNone then
    [.badLogLevel s.observability.logLevel] else []) ++
  (if s.observability.metricsEnabled &&
      (SocketAddress.parse? s.observability.metricsAddress).isNone then
    [.badMetricsAddress s.observability.metricsAddress] else [])

/-- Reads settings and checks them. -/
def ofText (text : String) : Except SettingsError Settings :=
  match (Toml.parse text).bind ofToml? with
  | none => .error .toml
  | some s => if s.faults.isEmpty then .ok s else .error (.invalid s.faults)

def load (place : Place) : Except SettingsError Settings :=
  match place.text with
  | .error e => .error (.io e)
  | .ok text => ofText text

end Settings

end Egress
