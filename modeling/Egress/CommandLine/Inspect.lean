import Egress.CommandLine.Options
import Egress.Directory
import Egress.Route

/-!
# The inspection tool

The tool answers from a payload file without a daemon: it prints the verdicts on URLs, or the
snapshot that the payload gives, or writes a payload to begin with. Every command is about one path.
-/

namespace Egress

inductive Inspection where
  | route (payload : String) (urls : List String)
  | show (payload : String)
  | init (path : String) (force : Bool)
  deriving Repr, DecidableEq

namespace Inspection

open CommandLine

def payloadOption : OptionSpec := ⟨"payload", some 'p', .path⟩

def form : Form := ⟨[⟨"log-level", some 'l', .text⟩], .command⟩

def routeForm : Form := ⟨[payloadOption], .texts⟩

def showForm : Form := ⟨[payloadOption], .none⟩

def initForm : Form := ⟨[⟨"force", some 'f', .flag⟩], .path⟩

/-- The value of an option that may not be missing. -/
def required (found : Found) (long : String) : Except Refusal String :=
  match found.value? long with
  | some value => .ok value
  | none => .error .usage

def readRoute (args : List String) : Except Refusal Inspection := do
  let found ← routeForm.read args
  return .route (← required found "payload") found.operands

def readShow (args : List String) : Except Refusal Inspection := do
  let found ← showForm.read args
  return .show (← required found "payload")

def readInit (args : List String) : Except Refusal Inspection := do
  let found ← initForm.read args
  match found.operands with
  | [path] => return .init path (found.value? "force").isSome
  | _ => .error .usage

/-- A request for help, perhaps about a command. -/
def readHelp : List String → Refusal
  | [] => .help
  | [command] => if ["route", "show", "init", "help"].contains command then .help else .usage
  | _ => .usage

def ofCommand (command : String) (args : List String) : Except Refusal Inspection :=
  match command with
  | "route" => readRoute args
  | "show" => readShow args
  | "init" => readInit args
  | "help" => .error (readHelp args)
  | _ => .error .usage

def ofArgs (args : List String) : Except Refusal (String × Inspection) := do
  let found ← form.read args
  match found.operands with
  | [command] =>
    let inspection ← ofCommand command found.arguments
    return ((found.value? "log-level").getD "warn", inspection)
  | _ => .error .usage

def path : Inspection → String
  | route payload _ => payload
  | «show» payload => payload
  | init path _ => path

def routeLine (url : String) (v : Verdict) : String :=
  url ++ "\t" ++ v.json.compact ++ "\n"

def routeLines (c : Config) : List String → Traced String
  | [] => pure ""
  | url :: rest => do
    let v ← c.route url
    let lines ← routeLines c rest
    return routeLine url v ++ lines

def orNull (v : Option Json) : Json := v.getD .null

def endpointJson (e : Endpoint) : Json :=
  Json.ofMembers [("host", .string e.host), ("port", Json.ofNat e.port.toNat)]

def configJson (c : Config) : Json :=
  Json.ofMembers [
    ("enabled", .bool c.enabled),
    ("http", orNull (c.http.map endpointJson)),
    ("https", orNull (c.https.map endpointJson)),
    ("use_http_for_https", .bool c.useHttpForHttps),
    ("bypass", .array (c.ruleTexts.map .string)),
    ("generation", Json.ofNat c.generation.toNat)]

/-- What `show` prints of a snapshot. -/
def summary (c : Config) : Json :=
  Json.ofMembers [
    ("config", configJson c),
    ("https_endpoint", orNull (c.httpsEndpoint.map endpointJson)),
    ("user_rules", .array ((Bypass.userRules c.ruleTexts).map .string))]

def withPayload (place : Place) (f : Config → Traced String) : Traced Outcome :=
  match Payload.load place with
  | .error e => pure (.failed (.load e))
  | .ok load => do
    let config ← load
    Outcome.printed <$> f config

/-- The bytes that a command writes to its path, if the place is fit for it. -/
def writes (i : Inspection) (place : Place) : Option (List UInt8) :=
  match i with
  | init _ force =>
    match place with
    | .file _ => if force then some (Payload.fileBytes Payload.installed) else none
    | .vacant => some (Payload.fileBytes Payload.installed)
    | _ => none
  | _ => none

/-- How a command ends, given what its path leads to. -/
def run (i : Inspection) (place : Place) : Traced Outcome :=
  match i with
  | route _ urls => withPayload place fun c => routeLines c urls
  | «show» _ => withPayload place fun c => pure ((summary c).pretty ++ "\n")
  | init path force =>
    if place.exists && !force then pure (.failed (.occupied path))
    else if (i.writes place).isSome then
      pure (.printed ("Wrote default payload to " ++ path ++ "\n"))
    else pure (.failed .write)

end Inspection

end Egress
