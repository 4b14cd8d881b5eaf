import Egress.Proofs.Dialects

/-!
# What each field of a payload decides

Every part of a snapshot is read from a few fields. A change of other fields, to whatever values,
leaves that part as it is, so that a field with an unusable value spoils its own part of the
snapshot and nothing else. Only the host for `http` reaches further: whether there is one decides if
a nested object is looked at, and with it about all parts but one. Without a nested object it
decides about its own endpoint alone.
-/

namespace Egress

attribute [ext] Config

namespace Payload

open Json (lookup)

def AgreeOn (keys : List String) (p q : Fields) : Prop :=
  ∀ key ∈ keys, lookup key p = lookup key q

/-- Two payloads differ in some keys at most, and there in any way. -/
def DifferOnlyIn (keys : List String) (p q : Fields) : Prop :=
  ∀ key, key ∉ keys → lookup key p = lookup key q

variable {p q : Fields}

theorem DifferOnlyIn.agreeOn {keys others : List String} (differ : DifferOnlyIn keys p q)
    (apart : ∀ key ∈ others, key ∉ keys) : AgreeOn others p q :=
  fun key mem => differ key (apart key mem)

theorem DifferOnlyIn.mono {keys keys' : List String} (differ : DifferOnlyIn keys p q)
    (more : ∀ key ∈ keys, key ∈ keys') : DifferOnlyIn keys' p q :=
  fun key apart => differ key fun mem => apart (more key mem)

theorem AgreeOn.head {key : String} {keys : List String} (same : AgreeOn (key :: keys) p q) :
    lookup key p = lookup key q :=
  same key List.mem_cons_self

theorem AgreeOn.tail {key : String} {keys : List String} (same : AgreeOn (key :: keys) p q) :
    AgreeOn keys p q :=
  fun k mem => same k (List.mem_cons_of_mem key mem)

def snapshotOf (fields : Fields) : Config :=
  (hydrate (.object fields)).value

/-- What the payload says of one endpoint for both schemes; a nested object overrules it. -/
def sharedFlag (fields : Fields) : Bool :=
  (readFlag fields "useForHttps").value

def endpointsOf (fields : Fields) : Endpoints :=
  (readEndpoints fields (sharedFlag fields)).value

/-! ## The nested object -/

theorem activeRules?_congr (same : AgreeOn ("proxySettings" :: httpHostKeys) p q) :
    activeRules? p = activeRules? q := by
  rw [activeRules?, activeRules?, firstPresent?_congr same.tail, nestedRules?_congr same.head]

/-- Without a nested object there are no rules in it, whatever hosts are given. -/
theorem activeRules?_of_missing (missing : present? p "proxySettings" = none) :
    activeRules? p = none := by
  have absent : nestedRules? p = none := by
    cases found : lookup "proxySettings" p with
    | none => rw [nestedRules?, found, Option.bind_none, Option.bind_none]
    | some v =>
      rw [present?, found] at missing
      cases v with
      | null => rw [nestedRules?, found]; rfl
      | bool | number | string | array | object => cases missing
  rw [activeRules?, absent, ite_self]

/-- Where the same nested object counts, or none in both payloads, the endpoints are read alike as
far as their own fields are alike. -/
theorem endpointsOf_congr (active : activeRules? p = activeRules? q) :
    (readHttp p = readHttp q → (endpointsOf p).http = (endpointsOf q).http) ∧
    (readHttps p (sharedFlag p) = readHttps q (sharedFlag q) →
      (endpointsOf p).https = (endpointsOf q).https) ∧
    (sharedFlag p = sharedFlag q →
      (endpointsOf p).useHttpForHttps = (endpointsOf q).useHttpForHttps) ∧
    (endpointsOf p).bypass = (endpointsOf q).bypass := by
  cases rules : activeRules? q with
  | some rs =>
    have same : endpointsOf p = endpointsOf q := by
      simp only [endpointsOf, readEndpoints, active, rules]
    rw [same]
    exact ⟨fun _ => rfl, fun _ => rfl, fun _ => rfl, rfl⟩
  | none =>
    simp only [endpointsOf, readEndpoints, active, rules]
    exact ⟨congrArg Traced.value, congrArg Traced.value, id, rfl⟩

/-! ## The parts of a snapshot -/

theorem enabled_congr (same : AgreeOn ["proxyEnabled", "mode"] p q) :
    (snapshotOf p).enabled = (snapshotOf q).enabled :=
  congrArg Traced.value (readEnabled_congr same.head same.tail.head)

theorem sharedFlag_congr (same : AgreeOn ["useForHttps"] p q) : sharedFlag p = sharedFlag q :=
  congrArg Traced.value (readFlag_congr same.head)

theorem http_congr (active : activeRules? p = activeRules? q)
    (same : AgreeOn ("httpPort" :: httpHostKeys) p q) :
    (snapshotOf p).http = (snapshotOf q).http := by
  apply (endpointsOf_congr active).1
  rw [readHttp, readHttp, firstPresent?_congr same.tail, same.head]

theorem https_congr (active : activeRules? p = activeRules? q)
    (flag : AgreeOn ["useForHttps"] p q) (same : AgreeOn ("httpsPort" :: httpsHostKeys) p q) :
    (snapshotOf p).https = (snapshotOf q).https := by
  apply (endpointsOf_congr active).2.1
  rw [readHttps, readHttps, firstPresent?_congr same.tail, same.head, sharedFlag_congr flag]

theorem shared_congr (active : activeRules? p = activeRules? q)
    (flag : AgreeOn ["useForHttps"] p q) :
    (snapshotOf p).useHttpForHttps = (snapshotOf q).useHttpForHttps :=
  (endpointsOf_congr active).2.2.1 (sharedFlag_congr flag)

theorem bypass_congr (active : activeRules? p = activeRules? q)
    (same : AgreeOn ["bypassList"] p q) : (snapshotOf p).bypass = (snapshotOf q).bypass := by
  change (readBypass p (endpointsOf p).bypass).value = (readBypass q (endpointsOf q).bypass).value
  rw [readBypass_congr same.head, (endpointsOf_congr active).2.2.2]

/-- No payload gives a generation. -/
theorem generation_congr (p q : Fields) : (snapshotOf p).generation = (snapshotOf q).generation :=
  rfl

/-! ## Changes of single fields -/

-- Snapshots are put together from their parts; nothing below looks into how a part is read.
attribute [local irreducible] snapshotOf

theorem snapshotOf_of_enabled_changed (differ : DifferOnlyIn ["proxyEnabled", "mode"] p q) :
    snapshotOf q = { snapshotOf p with enabled := (snapshotOf q).enabled } := by
  have active := activeRules?_congr (differ.agreeOn (by decide))
  have flag : AgreeOn ["useForHttps"] p q := differ.agreeOn (by decide)
  symm
  apply Config.ext
  case enabled => rfl
  case http => exact http_congr active (differ.agreeOn (by decide))
  case https => exact https_congr active flag (differ.agreeOn (by decide))
  case useHttpForHttps => exact shared_congr active flag
  case bypass => exact bypass_congr active (differ.agreeOn (by decide))
  case generation => exact generation_congr p q

theorem snapshotOf_of_bypass_changed (differ : DifferOnlyIn ["bypassList"] p q) :
    snapshotOf q = { snapshotOf p with bypass := (snapshotOf q).bypass } := by
  have active := activeRules?_congr (differ.agreeOn (by decide))
  have flag : AgreeOn ["useForHttps"] p q := differ.agreeOn (by decide)
  symm
  apply Config.ext
  case enabled => exact enabled_congr (differ.agreeOn (by decide))
  case http => exact http_congr active (differ.agreeOn (by decide))
  case https => exact https_congr active flag (differ.agreeOn (by decide))
  case useHttpForHttps => exact shared_congr active flag
  case bypass => rfl
  case generation => exact generation_congr p q

theorem snapshotOf_of_https_changed
    (differ : DifferOnlyIn ["httpsProxy", "httpsHost", "httpsPort"] p q) :
    snapshotOf q = { snapshotOf p with https := (snapshotOf q).https } := by
  have active := activeRules?_congr (differ.agreeOn (by decide))
  symm
  apply Config.ext
  case enabled => exact enabled_congr (differ.agreeOn (by decide))
  case http => exact http_congr active (differ.agreeOn (by decide))
  case https => rfl
  case useHttpForHttps => exact shared_congr active (differ.agreeOn (by decide))
  case bypass => exact bypass_congr active (differ.agreeOn (by decide))
  case generation => exact generation_congr p q

/-- A change of the endpoint for `http` alone. With its host the nested object may come to count or
cease to, which is why that must be known to stay as it is. -/
theorem snapshotOf_of_http_changed (active : activeRules? p = activeRules? q)
    (differ : DifferOnlyIn ("httpPort" :: httpHostKeys) p q) :
    snapshotOf q = { snapshotOf p with http := (snapshotOf q).http } := by
  have flag : AgreeOn ["useForHttps"] p q := differ.agreeOn (by decide)
  symm
  apply Config.ext
  case enabled => exact enabled_congr (differ.agreeOn (by decide))
  case http => rfl
  case https => exact https_congr active flag (differ.agreeOn (by decide))
  case useHttpForHttps => exact shared_congr active flag
  case bypass => exact bypass_congr active (differ.agreeOn (by decide))
  case generation => exact generation_congr p q

theorem snapshotOf_of_flag_changed (differ : DifferOnlyIn ["useForHttps"] p q) :
    snapshotOf q = { snapshotOf p with
      https := (snapshotOf q).https
      useHttpForHttps := (snapshotOf q).useHttpForHttps } := by
  have active := activeRules?_congr (differ.agreeOn (by decide))
  symm
  apply Config.ext
  case enabled => exact enabled_congr (differ.agreeOn (by decide))
  case http => exact http_congr active (differ.agreeOn (by decide))
  case https => rfl
  case useHttpForHttps => rfl
  case bypass => exact bypass_congr active (differ.agreeOn (by decide))
  case generation => exact generation_congr p q

/-- Payloads that differ in some fields give snapshots that differ at most in the part of these
fields, whatever values the fields hold. -/
theorem fields_degrade_locally (p q : Fields) :
    (DifferOnlyIn ["proxyEnabled", "mode"] p q →
      snapshotOf q = { snapshotOf p with enabled := (snapshotOf q).enabled }) ∧
    (DifferOnlyIn ["bypassList"] p q →
      snapshotOf q = { snapshotOf p with bypass := (snapshotOf q).bypass }) ∧
    (DifferOnlyIn ["httpsProxy", "httpsHost", "httpsPort"] p q →
      snapshotOf q = { snapshotOf p with https := (snapshotOf q).https }) ∧
    (DifferOnlyIn ["httpPort"] p q →
      snapshotOf q = { snapshotOf p with http := (snapshotOf q).http }) ∧
    (DifferOnlyIn ["useForHttps"] p q →
      snapshotOf q = { snapshotOf p with
        https := (snapshotOf q).https
        useHttpForHttps := (snapshotOf q).useHttpForHttps }) ∧
    (DifferOnlyIn ["httpProxy", "httpHost"] p q → present? p "proxySettings" = none →
      snapshotOf q = { snapshotOf p with http := (snapshotOf q).http }) := by
  refine ⟨snapshotOf_of_enabled_changed, snapshotOf_of_bypass_changed, snapshotOf_of_https_changed,
    ?_, snapshotOf_of_flag_changed, ?_⟩
  · intro differ
    have active := activeRules?_congr (differ.agreeOn (by decide))
    exact snapshotOf_of_http_changed active (differ.mono (by decide))
  · intro differ missing
    have missing' : present? q "proxySettings" = none := by
      rw [← present?_congr (differ "proxySettings" (by decide)), missing]
    have active : activeRules? p = activeRules? q :=
      (activeRules?_of_missing missing).trans (activeRules?_of_missing missing').symm
    exact snapshotOf_of_http_changed active (differ.mono (by decide))

theorem differOnlyIn_insertMember (key : String) (value : Json) (fields : Fields) :
    DifferOnlyIn [key] fields (Json.insertMember key value fields) := by
  intro other apart
  have differs : key ≠ other := fun same => apart (List.mem_singleton.mpr same.symm)
  exact (Json.lookup_insertMember_of_ne differs value fields).symm

def bothFields : Fields := [
  ("bypassList", .array [.string "corp.internal"]),
  ("httpPort", Json.ofNat 8080),
  ("httpProxy", .string "proxy.local"),
  ("httpsPort", Json.ofNat 8443),
  ("httpsProxy", .string "secure.local"),
  ("proxyEnabled", .bool true),
  ("useForHttps", .bool false)]

/-- The fields with an object in the place of one value, which no field can use. -/
def spoiled (key : String) : Fields :=
  Json.insertMember key (.object []) bothFields

theorem fields_degrade_locally_spoiled :
    snapshotOf (spoiled "proxyEnabled") = { snapshotOf bothFields with enabled := false } ∧
      snapshotOf (spoiled "bypassList") =
        { snapshotOf bothFields with bypass := Bypass.defaults.map Bypass.Rule.ofText } ∧
      snapshotOf (spoiled "httpsProxy") = { snapshotOf bothFields with https := none } ∧
      snapshotOf (spoiled "httpPort") = { snapshotOf bothFields with http := none } ∧
      snapshotOf (Json.insertMember "useForHttps" (.bool true) bothFields) =
        { snapshotOf bothFields with https := none, useHttpForHttps := true } ∧
      present? bothFields "proxySettings" = none ∧
      snapshotOf (spoiled "httpProxy") = { snapshotOf bothFields with http := none } := by
  have differ : ∀ key, DifferOnlyIn [key] bothFields (spoiled key) :=
    fun key => differOnlyIn_insertMember key _ _
  have enabled : (snapshotOf (spoiled "proxyEnabled")).enabled = false := by decide +kernel
  have bypass : (snapshotOf (spoiled "bypassList")).bypass =
      Bypass.defaults.map Bypass.Rule.ofText := by
    decide +kernel
  have https : (snapshotOf (spoiled "httpsProxy")).https = none := by decide +kernel
  have port : (snapshotOf (spoiled "httpPort")).http = none := by decide +kernel
  have host : (snapshotOf (spoiled "httpProxy")).http = none := by decide +kernel
  have shared :
      (snapshotOf (Json.insertMember "useForHttps" (.bool true) bothFields)).https = none ∧
      (snapshotOf (Json.insertMember "useForHttps" (.bool true) bothFields)).useHttpForHttps =
        true := by
    decide +kernel
  have missing : present? bothFields "proxySettings" = none := rfl
  refine ⟨?_, ?_, ?_, ?_, ?_, missing, ?_⟩
  · rw [(fields_degrade_locally bothFields _).1 ((differ "proxyEnabled").mono (by decide)), enabled]
  · rw [(fields_degrade_locally bothFields _).2.1 (differ "bypassList"), bypass]
  · rw [(fields_degrade_locally bothFields _).2.2.1 ((differ "httpsProxy").mono (by decide)), https]
  · rw [(fields_degrade_locally bothFields _).2.2.2.1 (differ "httpPort"), port]
  · rw [(fields_degrade_locally bothFields _).2.2.2.2.1 (differOnlyIn_insertMember _ _ _), shared.1,
      shared.2]
  · rw [(fields_degrade_locally bothFields _).2.2.2.2.2 ((differ "httpProxy").mono (by decide))
      missing, host]

end Payload

end Egress
