import Egress.Config
import Egress.Decimal.Reading
import Egress.Json.Basic
import Egress.Text.Normal

/-!
# From a payload to a snapshot

A payload is the JSON value that describes the wanted routing. It is read generously: every payload
gives a snapshot, and a field that cannot be used is reported and falls back by itself, without an
effect on the others. Null means the same as absence.

There are two dialects. In the flat one each endpoint has a host field and a port field of its own.
In the nested one, which counts only if no flat host for `http` is given, one proxy serves all
schemes.
-/

namespace Egress.Payload

/-!
## Ports

A port may be given as a number or as the text of one. Fractions are cut off, and what is then zero
means no port. A value that is no number, or lies outside the range of ports, is refused; it never
wraps around into the range.
-/

/-- The port that a whole number means, zero meaning none. -/
def portOfNat? (n : Nat) : Option UInt16 :=
  if n < 65536 then some (UInt16.ofNat n) else none

/-- The port that a number means after its fraction is cut off. -/
def portOfNumber? : TypedNumber → Option UInt16
  | .finite x => if x.negative && x.whole != 0 then none else portOfNat? x.whole
  | .infinite _ => none
  | .nan => none

def portOfInt? (n : Int) : Option UInt16 :=
  if n < 0 then none else portOfNat? n.toNat

/-- The port that a text means; a blank text means none. -/
def portOfText? (s : String) : Option UInt16 :=
  if Text.allBlank s then some 0
  else (TypedNumber.read? (Text.trimChars s.toList)).bind portOfNumber?

def portOf? : Json → Option UInt16
  | .null => some 0
  | .number (.integer n) => portOfInt? n
  | .number (.double x) => portOfNumber? (.finite x)
  | .string s => portOfText? s
  | _ => none

/-! ## Fields -/

/-- The members of a payload or of an object inside it. -/
abbrev Fields := List (String × Json)

/-- The value of a field that is there and not null. -/
def present? (fields : Fields) (key : String) : Option Json :=
  (Json.lookup key fields).filter (fun v => !v.isNull)

def firstPresent? (fields : Fields) (keys : List String) : Option Json :=
  keys.findSome? (present? fields)

def readMode (fields : Fields) : Traced Bool :=
  match (Json.lookup "mode" fields).bind Json.string? with
  | none => pure false
  | some m =>
    if m = "manual" then pure true
    else if m = "none" then pure false
    else do
      Traced.report (.modeUnknown m)
      return false

/-- Whether proxying is on; the mode counts only if nothing else says so. -/
def readEnabled (fields : Fields) : Traced Bool :=
  match present? fields "proxyEnabled" with
  | some (.bool b) => pure b
  | some v => do
    Traced.report (.enabledNotBool v)
    return false
  | none => readMode fields

/-- A truth value that is false unless given. -/
def readFlag (fields : Fields) (key : String) : Traced Bool :=
  match present? fields key with
  | some (.bool b) => pure b
  | some v => do
    Traced.report (.flagNotBool key v)
    return false
  | none => pure false

/-- The normal form of a host, empty if there is none; `field` is what a report names. -/
def readHost (field : String) : Option Json → Traced String
  | none => pure ""
  | some .null => pure ""
  | some (.string s) => pure (Text.normalName s)
  | some (.number n) => pure (Text.normalName n.text)
  | some v => do
    Traced.report (.hostNotText field v)
    return ""

def readPort (field : String) : Option Json → Traced UInt16
  | none => pure 0
  | some v =>
    match portOf? v with
    | some p => pure p
    | none => do
      Traced.report (.portInvalid field)
      return 0

def readEndpoint (hostField portField : String) (host port : Option Json) :
    Traced (Option Endpoint) := do
  let host ← readHost hostField host
  let port ← readPort portField port
  return Endpoint.ofParts? host port

/-- The host fields for `http`; the second is another name of the first. -/
def httpHostKeys : List String := ["httpProxy", "httpHost"]

def httpsHostKeys : List String := ["httpsProxy", "httpsHost"]

/-- The endpoints of a payload, with the rules that came with them. -/
structure Endpoints where
  http : Option Endpoint
  https : Option Endpoint
  useHttpForHttps : Bool
  bypass : Option Json

def readHttp (fields : Fields) : Traced (Option Endpoint) :=
  readEndpoint "httpProxy" "httpPort" (firstPresent? fields httpHostKeys)
    (Json.lookup "httpPort" fields)

/-- The endpoint for `https` of the flat dialect. Its fields are not looked at if the endpoint for
`http` serves both. -/
def readHttps (fields : Fields) (useHttpForHttps : Bool) : Traced (Option Endpoint) :=
  if useHttpForHttps then pure none
  else
    readEndpoint "httpsProxy" "httpsPort" (firstPresent? fields httpsHostKeys)
      (Json.lookup "httpsPort" fields)

def readFlat (fields : Fields) (useHttpForHttps : Bool) : Traced Endpoints := do
  let http ← readHttp fields
  let https ← readHttps fields useHttpForHttps
  return ⟨http, https, useHttpForHttps, none⟩

def nestedRules? (fields : Fields) : Option Fields :=
  ((Json.lookup "proxySettings" fields).bind (·.get? "rules")).bind Json.members?

def readSingleProxy (rules : Fields) : Traced (Option Endpoint) :=
  match (Json.lookup "singleProxy" rules).bind Json.members? with
  | none => pure none
  | some proxy =>
    readEndpoint "singleProxy.host" "singleProxy.port" (Json.lookup "host" proxy)
      (Json.lookup "port" proxy)

def readNested (rules : Fields) : Traced Endpoints := do
  let http ← readSingleProxy rules
  Traced.report .nestedPayload
  return ⟨http, none, true, Json.lookup "bypassList" rules⟩

/-- The rules object that counts: that of the nested dialect if no flat host is given. -/
def activeRules? (fields : Fields) : Option Fields :=
  if (firstPresent? fields httpHostKeys).isSome then none else nestedRules? fields

def readEndpoints (fields : Fields) (useHttpForHttps : Bool) : Traced Endpoints :=
  match activeRules? fields with
  | some rules => readNested rules
  | none => readFlat fields useHttpForHttps

/-- The rules of a payload, or else those that came with its endpoints. -/
def readBypass (fields : Fields) (fallback : Option Json) : Traced (List Bypass.Rule) := do
  let input ← Bypass.Input.ofJson ((present? fields "bypassList").or fallback)
  Bypass.rulesOf input

def hydrateFields (fields : Fields) : Traced Config := do
  let enabled ← readEnabled fields
  let useHttpForHttps ← readFlag fields "useForHttps"
  let endpoints ← readEndpoints fields useHttpForHttps
  let bypass ← readBypass fields endpoints.bypass
  Traced.report .hydrated
  return {
    enabled := enabled
    http := endpoints.http
    https := endpoints.https
    useHttpForHttps := endpoints.useHttpForHttps
    bypass := bypass }

/-- The snapshot of a payload. One that is no object has proxying off and the built-in rules
only. -/
def hydrate : Json → Traced Config
  | .object fields => hydrateFields fields
  | payload => do
    Traced.report (.payloadNotObject payload)
    let bypass ← Bypass.rulesOf .absent
    return { bypass := bypass }

/-- The payload that is written at installation. -/
def installed : Json :=
  Json.ofMembers [
    ("proxyEnabled", .bool false),
    ("httpProxy", .string "example.com"),
    ("httpPort", Json.ofNat 8080),
    ("httpsProxy", .string ""),
    ("httpsPort", Json.ofNat 0),
    ("useForHttps", .bool false),
    ("bypassList", .array [])]

end Egress.Payload
