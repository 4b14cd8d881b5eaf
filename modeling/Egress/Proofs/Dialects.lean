import Egress.Payload.Hydrate
import Egress.Proofs.Members

/-!
# The dialects of payloads

A payload may use the flat fields, the nested ones or the field names of the settings form. The same
content gives the same snapshot in each of them. Which of the flat and the nested dialect counts is
decided by the host for `http` alone: with such a host the nested object is not looked at, and
without one it is the flat fields for `https` that are not looked at.
-/

namespace Egress.Payload

open Json (lookup eraseMember renameMember insertMember)

section Congruence

variable {fields fields' : Fields}

theorem present?_congr {key : String} (same : lookup key fields = lookup key fields') :
    present? fields key = present? fields' key := by
  rw [present?, present?, same]

theorem firstPresent?_congr_of_present? {keys : List String}
    (same : ∀ key ∈ keys, present? fields key = present? fields' key) :
    firstPresent? fields keys = firstPresent? fields' keys := by
  unfold firstPresent?
  induction keys with
  | nil => rfl
  | cons key keys ih =>
    rw [List.findSome?_cons, List.findSome?_cons, same key List.mem_cons_self,
      ih fun k mem => same k (List.mem_cons_of_mem key mem)]

theorem firstPresent?_congr {keys : List String}
    (same : ∀ key ∈ keys, lookup key fields = lookup key fields') :
    firstPresent? fields keys = firstPresent? fields' keys :=
  firstPresent?_congr_of_present? fun key mem => present?_congr (same key mem)

theorem readEnabled_congr (enabled : lookup "proxyEnabled" fields = lookup "proxyEnabled" fields')
    (mode : lookup "mode" fields = lookup "mode" fields') :
    readEnabled fields = readEnabled fields' := by
  rw [readEnabled, readEnabled, readMode, readMode, present?_congr enabled, mode]

theorem readFlag_congr {key : String} (same : lookup key fields = lookup key fields') :
    readFlag fields key = readFlag fields' key := by
  rw [readFlag, readFlag, present?_congr same]

theorem readFlat_congr
    (httpHost : firstPresent? fields httpHostKeys = firstPresent? fields' httpHostKeys)
    (httpPort : lookup "httpPort" fields = lookup "httpPort" fields')
    (httpsHost : firstPresent? fields httpsHostKeys = firstPresent? fields' httpsHostKeys)
    (httpsPort : lookup "httpsPort" fields = lookup "httpsPort" fields') :
    readFlat fields = readFlat fields' := by
  funext useHttpForHttps
  rw [readFlat, readFlat, readHttp, readHttp, readHttps, readHttps, httpHost, httpPort, httpsHost,
    httpsPort]

theorem nestedRules?_congr (same : lookup "proxySettings" fields = lookup "proxySettings" fields') :
    nestedRules? fields = nestedRules? fields' := by
  rw [nestedRules?, nestedRules?, same]

theorem readEndpoints_congr
    (httpHost : firstPresent? fields httpHostKeys = firstPresent? fields' httpHostKeys)
    (httpPort : lookup "httpPort" fields = lookup "httpPort" fields')
    (httpsHost : firstPresent? fields httpsHostKeys = firstPresent? fields' httpsHostKeys)
    (httpsPort : lookup "httpsPort" fields = lookup "httpsPort" fields')
    (nested : nestedRules? fields = nestedRules? fields') :
    readEndpoints fields = readEndpoints fields' := by
  funext useHttpForHttps
  rw [readEndpoints, readEndpoints, activeRules?, activeRules?, httpHost, nested,
    readFlat_congr httpHost httpPort httpsHost httpsPort]

theorem readEndpoints_of_host (given : (firstPresent? fields httpHostKeys).isSome = true) :
    readEndpoints fields = readFlat fields := by
  funext useHttpForHttps
  rw [readEndpoints, activeRules?, if_pos given]

theorem readEndpoints_of_no_nested (missing : nestedRules? fields = none) :
    readEndpoints fields = readFlat fields := by
  funext useHttpForHttps
  rw [readEndpoints, activeRules?, missing, ite_self]

theorem readEndpoints_of_nested (missing : firstPresent? fields httpHostKeys = none)
    {rules : Fields} (nested : nestedRules? fields = some rules) (useHttpForHttps : Bool) :
    readEndpoints fields useHttpForHttps = readNested rules := by
  have absent : ¬ (firstPresent? fields httpHostKeys).isSome = true := by
    simp [missing]
  rw [readEndpoints, activeRules?, if_neg absent, nested]

theorem readBypass_congr (same : lookup "bypassList" fields = lookup "bypassList" fields') :
    readBypass fields = readBypass fields' := by
  funext fallback
  rw [readBypass, readBypass, present?_congr same]

/-- A payload is read through four readers. -/
theorem hydrate_congr (enabled : readEnabled fields = readEnabled fields')
    (flag : readFlag fields "useForHttps" = readFlag fields' "useForHttps")
    (endpoints : readEndpoints fields = readEndpoints fields')
    (bypass : readBypass fields = readBypass fields') :
    hydrate (.object fields) = hydrate (.object fields') := by
  rw [hydrate, hydrate, hydrateFields, hydrateFields, enabled, flag, endpoints, bypass]

/-- The fields that have one name only, apart from those that say whether proxying is on. -/
def plainKeys : List String :=
  ["useForHttps", "httpPort", "httpsPort", "proxySettings", "bypassList"]

/-- A payload may be changed in any way that keeps the hosts and the other fields. -/
theorem hydrate_congr_of_lookups (enabled : readEnabled fields = readEnabled fields')
    (httpHost : firstPresent? fields httpHostKeys = firstPresent? fields' httpHostKeys)
    (httpsHost : firstPresent? fields httpsHostKeys = firstPresent? fields' httpsHostKeys)
    (same : ∀ key ∈ plainKeys, lookup key fields = lookup key fields') :
    hydrate (.object fields) = hydrate (.object fields') := by
  have endpoints : readEndpoints fields = readEndpoints fields' :=
    readEndpoints_congr httpHost (same "httpPort" (by decide)) httpsHost
      (same "httpsPort" (by decide)) (nestedRules?_congr (same "proxySettings" (by decide)))
  exact hydrate_congr enabled (readFlag_congr (same "useForHttps" (by decide))) endpoints
    (readBypass_congr (same "bypassList" (by decide)))

end Congruence

/-- A field that is not looked at for the endpoints, nor for anything else, can be left out. -/
theorem hydrate_eraseMember {fields : Fields} {key : String}
    (unread : key ∉ ["proxyEnabled", "mode", "useForHttps", "bypassList"])
    (endpoints : readEndpoints (eraseMember key fields) = readEndpoints fields) :
    hydrate (.object (eraseMember key fields)) = hydrate (.object fields) := by
  have kept := Json.lookup_eraseMember_of_not_mem unread fields
  exact hydrate_congr
    (readEnabled_congr (kept "proxyEnabled" (by decide)) (kept "mode" (by decide)))
    (readFlag_congr (kept "useForHttps" (by decide))) endpoints
    (readBypass_congr (kept "bypassList" (by decide)))

theorem hydrate_without_nested {fields : Fields}
    (unused : (firstPresent? fields httpHostKeys).isSome = true ∨ nestedRules? fields = none) :
    hydrate (.object (eraseMember "proxySettings" fields)) = hydrate (.object fields) := by
  have kept : ∀ keys, "proxySettings" ∉ keys → ∀ key ∈ keys,
      lookup key (eraseMember "proxySettings" fields) = lookup key fields :=
    fun keys apart => Json.lookup_eraseMember_of_not_mem apart fields
  have ports := kept ["httpPort", "httpsPort"] (by decide)
  have flat : readFlat (eraseMember "proxySettings" fields) = readFlat fields :=
    readFlat_congr (firstPresent?_congr (kept httpHostKeys (by decide)))
      (ports "httpPort" (by decide)) (firstPresent?_congr (kept httpsHostKeys (by decide)))
      (ports "httpsPort" (by decide))
  have gone : nestedRules? (eraseMember "proxySettings" fields) = none := by
    rw [nestedRules?, Json.lookup_eraseMember]
    rfl
  apply hydrate_eraseMember (by decide)
  rw [readEndpoints_of_no_nested gone, flat]
  rcases unused with given | missing
  · rw [readEndpoints_of_host given]
  · rw [readEndpoints_of_no_nested missing]

theorem hydrate_without_https {fields : Fields} (missing : firstPresent? fields httpHostKeys = none)
    {rules : Fields} (nested : nestedRules? fields = some rules) {key : String}
    (mem : key ∈ ["httpsProxy", "httpsHost", "httpsPort"]) :
    hydrate (.object (eraseMember key fields)) = hydrate (.object fields) := by
  have apart : ∀ key ∈ ["httpsProxy", "httpsHost", "httpsPort"],
      key ∉ ["proxyEnabled", "mode", "useForHttps", "bypassList"] ∧ key ∉ httpHostKeys ∧
        "proxySettings" ≠ key := by
    decide
  obtain ⟨unread, noHost, notNested⟩ := apart key mem
  have missing' : firstPresent? (eraseMember key fields) httpHostKeys = none := by
    rw [firstPresent?_congr (Json.lookup_eraseMember_of_not_mem noHost fields), missing]
  have nested' : nestedRules? (eraseMember key fields) = some rules := by
    rw [nestedRules?_congr (Json.lookup_eraseMember_of_ne notNested.symm fields), nested]
  apply hydrate_eraseMember unread
  funext useHttpForHttps
  rw [readEndpoints_of_nested missing nested, readEndpoints_of_nested missing' nested']

/-- With a host for `http` among the flat fields, or without rules in it, the nested object has no
influence. In all other cases it is the flat fields for `https` that have none. -/
theorem hydrate_by_http_host (fields : Fields) :
    ((firstPresent? fields httpHostKeys).isSome = true ∨ nestedRules? fields = none →
      hydrate (.object (eraseMember "proxySettings" fields)) = hydrate (.object fields)) ∧
    (firstPresent? fields httpHostKeys = none ∧ (nestedRules? fields).isSome = true →
      ∀ key ∈ ["httpsProxy", "httpsHost", "httpsPort"],
        hydrate (.object (eraseMember key fields)) = hydrate (.object fields)) := by
  refine ⟨hydrate_without_nested, ?_⟩
  rintro ⟨missing, given⟩ key mem
  obtain ⟨rules, nested⟩ := Option.isSome_iff_exists.mp given
  exact hydrate_without_https missing nested mem

def mixedFields : Fields := [
  ("httpsPort", Json.ofNat 8443),
  ("httpsProxy", .string "secure.local"),
  ("proxyEnabled", .bool true),
  ("proxySettings", .object [
    ("rules", .object [
      ("bypassList", .array [.string "*.internal"]),
      ("singleProxy", .object [("host", .string "chrome.proxy"), ("port", Json.ofNat 8080)])])])]

/-- The mixed fields with a host for `http`, too. -/
def flatOverNested : Fields :=
  insertMember "httpProxy" (.string "proxy.local") mixedFields

theorem hydrate_by_http_host_mixed :
    ((firstPresent? flatOverNested httpHostKeys).isSome = true ∧
      hydrate (.object (eraseMember "proxySettings" flatOverNested)) =
        hydrate (.object flatOverNested)) ∧
    (firstPresent? mixedFields httpHostKeys = none ∧ (nestedRules? mixedFields).isSome = true) ∧
      hydrate (.object (eraseMember "httpsProxy" mixedFields)) = hydrate (.object mixedFields) := by
  have given : (firstPresent? flatOverNested httpHostKeys).isSome = true := by
    decide +kernel
  have missing : firstPresent? mixedFields httpHostKeys = none ∧
      (nestedRules? mixedFields).isSome = true := by
    decide +kernel
  exact ⟨⟨given, (hydrate_by_http_host flatOverNested).1 (.inl given)⟩, missing,
    (hydrate_by_http_host mixedFields).2 missing "httpsProxy" (by decide)⟩

/-- A flat host for `https` that a nested object outvotes. -/
theorem nested_outvotes_https :
    (firstPresent? mixedFields httpsHostKeys).isSome = true ∧
      (hydrate (.object mixedFields)).value.https = none ∧
      (hydrate (.object (eraseMember "proxySettings" mixedFields))).value.https =
        some ⟨"secure.local", 8443⟩ := by
  decide +kernel

def nestedPayload (enabled host port rules : Json) : Json :=
  .object [
    ("proxyEnabled", enabled),
    ("proxySettings", .object [
      ("rules", .object [
        ("bypassList", rules),
        ("singleProxy", .object [("host", host), ("port", port)])])])]

/-- The flat fields with the given values for one proxy that serves all schemes. -/
def flatFields (enabled host port rules : Json) : Fields := [
  ("bypassList", rules),
  ("httpPort", port),
  ("httpProxy", host),
  ("proxyEnabled", enabled),
  ("useForHttps", .bool true)]

def singleProxyConfig (enabled host port rules : Json) : Config where
  enabled := (readEnabled [("proxyEnabled", enabled)]).value
  http := Endpoint.ofParts? (readHost "host" (some host)).value (readPort "port" (some port)).value
  useHttpForHttps := true
  bypass := (Bypass.rulesOf (Bypass.Input.ofJson (some rules)).value).value

theorem value_readHost (field field' : String) (host : Option Json) :
    (readHost field host).value = (readHost field' host).value := by
  unfold readHost
  split <;> rfl

theorem value_readPort (field field' : String) (port : Option Json) :
    (readPort field port).value = (readPort field' port).value := by
  unfold readPort
  repeat' split
  all_goals rfl

theorem value_hydrate_nestedPayload (enabled host port rules : Json) :
    (hydrate (nestedPayload enabled host port rules)).value =
      singleProxyConfig enabled host port rules := by
  rw [singleProxyConfig, value_readHost "host" "singleProxy.host",
    value_readPort "port" "singleProxy.port"]
  rfl

/-- A null is read as an absent host. -/
theorem readHost_filter (field : String) (host : Option Json) :
    readHost field (host.filter fun v => !v.isNull) = readHost field host := by
  rcases host with _ | host
  · rfl
  · cases host <;> rfl

/-- A null is read as an absent list. -/
theorem inputOfJson_filter (rules : Option Json) :
    Bypass.Input.ofJson (rules.filter fun v => !v.isNull) = Bypass.Input.ofJson rules := by
  rcases rules with _ | rules
  · rfl
  · cases rules <;> rfl

theorem firstPresent?_of_second_missing {fields : Fields} {first second : String}
    (missing : lookup second fields = none) :
    firstPresent? fields [first, second] = present? fields first := by
  have absent : present? fields second = none := by
    rw [present?, missing]
    rfl
  rw [firstPresent?, List.findSome?_cons, List.findSome?_cons, List.findSome?_nil, absent]
  cases present? fields first <;> rfl

/-- The snapshot of the flat dialect where the endpoint for `http` serves both. -/
theorem value_hydrate_of_flag {fields : Fields} (missing : nestedRules? fields = none)
    (flag : lookup "useForHttps" fields = some (.bool true)) :
    (hydrate (.object fields)).value = {
      enabled := (readEnabled fields).value
      http := (readHttp fields).value
      useHttpForHttps := true
      bypass := (readBypass fields none).value } := by
  have set : readFlag fields "useForHttps" = pure true := by
    rw [readFlag, present?, flag]
    rfl
  rw [hydrate, hydrateFields, readEndpoints_of_no_nested missing, set]
  rfl

theorem value_hydrate_flatFields (enabled host port rules : Json) :
    (hydrate (.object (flatFields enabled host port rules))).value =
      singleProxyConfig enabled host port rules := by
  have isEnabled : readEnabled (flatFields enabled host port rules) =
      readEnabled [("proxyEnabled", enabled)] :=
    readEnabled_congr rfl rfl
  have http : readHttp (flatFields enabled host port rules) =
      readEndpoint "httpProxy" "httpPort" (some host) (some port) := by
    have hostGiven : firstPresent? (flatFields enabled host port rules) httpHostKeys =
        (some host).filter fun v => !v.isNull :=
      firstPresent?_of_second_missing rfl
    rw [readHttp, hostGiven, readEndpoint, readHost_filter]
    rfl
  have bypass : readBypass (flatFields enabled host port rules) none =
      Bypass.Input.ofJson (some rules) >>= Bypass.rulesOf := by
    have given : present? (flatFields enabled host port rules) "bypassList" =
        (some rules).filter fun v => !v.isNull := rfl
    rw [readBypass, Option.or_none, given, inputOfJson_filter]
  rw [value_hydrate_of_flag rfl rfl, isEnabled, http, bypass, singleProxyConfig,
    value_readHost "host" "httpProxy", value_readPort "port" "httpPort"]
  rfl

/-- The members with the host fields under the names of the settings form. -/
def withFormHosts (fields : Fields) : Fields :=
  renameMember "httpsProxy" "httpsHost" (renameMember "httpProxy" "httpHost" fields)

def setMode (b : Bool) (fields : Fields) : Fields :=
  insertMember "mode" (.string (if b then "manual" else "none")) (eraseMember "proxyEnabled" fields)

/-- The members with a mode if they say by a truth value whether proxying is on. -/
def withMode (fields : Fields) : Fields :=
  match lookup "proxyEnabled" fields with
  | some (.bool b) => setMode b fields
  | _ => fields

theorem firstPresent?_of_first_missing {fields : Fields} {first second : String}
    (missing : lookup first fields = none) :
    firstPresent? fields [first, second] = present? fields second := by
  have absent : present? fields first = none := by
    rw [present?, missing]
    rfl
  rw [firstPresent?, List.findSome?_cons, absent, List.findSome?_cons, List.findSome?_nil]
  cases present? fields second <;> rfl

theorem firstPresent?_of_moved {fields fields' : Fields} {first second : String}
    (gone : lookup first fields' = none) (moved : lookup second fields' = lookup first fields)
    (free : lookup second fields = none) :
    firstPresent? fields' [first, second] = firstPresent? fields [first, second] := by
  rw [firstPresent?_of_first_missing gone, firstPresent?_of_second_missing free, present?, present?,
    moved]

theorem hydrate_withFormHosts {fields : Fields} (noHttp : lookup "httpHost" fields = none)
    (noHttps : lookup "httpsHost" fields = none) :
    hydrate (.object (withFormHosts fields)) = hydrate (.object fields) := by
  have kept : ∀ key ∉ ["httpsProxy", "httpsHost", "httpProxy", "httpHost"],
      lookup key (withFormHosts fields) = lookup key fields := by
    intro key other
    simp only [List.mem_cons, List.not_mem_nil, or_false, not_or] at other
    obtain ⟨a, b, c, d⟩ := other
    rw [withFormHosts, Json.lookup_renameMember_of_ne (Ne.symm a) (Ne.symm b),
      Json.lookup_renameMember_of_ne (Ne.symm c) (Ne.symm d)]
  have httpHost : firstPresent? (withFormHosts fields) httpHostKeys =
      firstPresent? fields httpHostKeys := by
    apply firstPresent?_of_moved
    · rw [withFormHosts, Json.lookup_renameMember_of_ne (by decide) (by decide),
        Json.lookup_renameMember_old (by decide)]
    · rw [withFormHosts, Json.lookup_renameMember_of_ne (by decide) (by decide),
        Json.lookup_renameMember_new noHttp]
    · exact noHttp
  have httpsHost : firstPresent? (withFormHosts fields) httpsHostKeys =
      firstPresent? fields httpsHostKeys := by
    have apart : lookup "httpsHost" (renameMember "httpProxy" "httpHost" fields) =
        lookup "httpsHost" fields :=
      Json.lookup_renameMember_of_ne (by decide) (by decide) fields
    apply firstPresent?_of_moved
    · exact Json.lookup_renameMember_old (by decide) _
    · rw [withFormHosts, Json.lookup_renameMember_new (apart.trans noHttps),
        Json.lookup_renameMember_of_ne (by decide) (by decide)]
    · exact noHttps
  have enabled : readEnabled (withFormHosts fields) = readEnabled fields :=
    readEnabled_congr (kept "proxyEnabled" (by decide)) (kept "mode" (by decide))
  have others : ∀ key ∈ plainKeys, key ∉ ["httpsProxy", "httpsHost", "httpProxy", "httpHost"] := by
    decide
  exact hydrate_congr_of_lookups enabled httpHost httpsHost
    fun key mem => kept key (others key mem)

theorem lookup_setMode_of_mem {keys : List String} (apart : "mode" ∉ keys)
    (apart' : "proxyEnabled" ∉ keys) (b : Bool) (fields : Fields) :
    ∀ key ∈ keys, lookup key (setMode b fields) = lookup key fields := by
  intro key mem
  rw [setMode, Json.lookup_insertMember_of_ne (ne_of_mem_of_not_mem mem apart).symm,
    Json.lookup_eraseMember_of_not_mem apart' fields key mem]

/-- A truth value and the mode that stands for it are read alike. -/
theorem readEnabled_setMode {fields : Fields} {b : Bool}
    (found : lookup "proxyEnabled" fields = some (.bool b)) :
    readEnabled (setMode b fields) = readEnabled fields := by
  have gone : lookup "proxyEnabled" (setMode b fields) = none := by
    rw [setMode, Json.lookup_insertMember_of_ne (by decide), Json.lookup_eraseMember]
  rw [readEnabled, readEnabled, readMode, present?, present?, gone, found, setMode,
    Json.lookup_insertMember]
  cases b <;> rfl

theorem hydrate_withMode (fields : Fields) :
    hydrate (.object (withMode fields)) = hydrate (.object fields) := by
  unfold withMode
  split
  · next b found =>
    have kept : ∀ keys : List String, "mode" ∉ keys → "proxyEnabled" ∉ keys →
        ∀ key ∈ keys, lookup key (setMode b fields) = lookup key fields :=
      fun keys apart apart' => lookup_setMode_of_mem apart apart' b fields
    exact hydrate_congr_of_lookups (readEnabled_setMode found)
      (firstPresent?_congr (kept httpHostKeys (by decide) (by decide)))
      (firstPresent?_congr (kept httpsHostKeys (by decide) (by decide)))
      (kept plainKeys (by decide) (by decide))
  · rfl

/-- One proxy for all schemes hydrates alike from the nested and from the flat fields, whatever
their values are; and the names of the settings form, with its mode in the place of a truth value,
hydrate like the flat ones. -/
theorem hydrate_dialects :
    (∀ enabled host port rules : Json,
      (hydrate (nestedPayload enabled host port rules)).value =
        (hydrate (.object (flatFields enabled host port rules))).value) ∧
    ∀ fields : Fields, lookup "httpHost" fields = none → lookup "httpsHost" fields = none →
      hydrate (.object (withFormHosts fields)) = hydrate (.object fields) ∧
        hydrate (.object (withMode fields)) = hydrate (.object fields) ∧
        hydrate (.object (withMode (withFormHosts fields))) = hydrate (.object fields) := by
  constructor
  · intro enabled host port rules
    rw [value_hydrate_nestedPayload, value_hydrate_flatFields]
  · intro fields noHttp noHttps
    have renamed := hydrate_withFormHosts noHttp noHttps
    exact ⟨renamed, hydrate_withMode fields,
      (hydrate_withMode (withFormHosts fields)).trans renamed⟩

/-- Flat fields with a truth value, next to a mode that does not count. -/
def plainFields : Fields := [
  ("httpPort", .string "8080"),
  ("httpProxy", .string "Proxy.Local."),
  ("httpsPort", Json.ofNat 8443),
  ("httpsProxy", Json.ofNat 7),
  ("mode", .string "none"),
  ("proxyEnabled", .bool true)]

/-- The same fields as the settings form writes them. -/
def formFields : Fields := [
  ("httpHost", .string "Proxy.Local."),
  ("httpPort", .string "8080"),
  ("httpsHost", Json.ofNat 7),
  ("httpsPort", Json.ofNat 8443),
  ("mode", .string "manual")]

theorem hydrate_dialects_form :
    (lookup "httpHost" plainFields = none ∧ lookup "httpsHost" plainFields = none) ∧
      withMode (withFormHosts plainFields) = formFields ∧
      hydrate (.object formFields) = hydrate (.object plainFields) := by
  have written : withMode (withFormHosts plainFields) = formFields := by
    rfl
  have alike := (hydrate_dialects.2 plainFields rfl rfl).2.2
  rw [written] at alike
  exact ⟨⟨rfl, rfl⟩, written, alike⟩

end Egress.Payload
