import Egress.Proofs.Ports
import Egress.Proofs.ProxyHosts
import Egress.Proofs.RuleSets

/-!
# Payloads made from snapshots

A snapshot can be written down as a flat payload: its two endpoints, its rules and its two truth
values. This payload gives the snapshot again, whatever dialect the snapshot came from, exactly if
the hosts and the texts of the rules are stable, that is if they are their own normal forms. Hosts
and rules of snapshots are in lower case already, so that this only asks what they end and begin
with.
-/

namespace Egress

namespace Text

/-- Of a text in lower case, its inner characters are left. -/
theorem normalChars_of_lower {cs : List Char} (lower : ∀ c ∈ cs, IsLower c) :
    normalChars cs = withoutDot (trimChars cs) := by
  have inside := (Bypass.withoutDot_sublist (trimChars cs)).trans (trimChars_sublist cs)
  exact lowercaseChars_eq_self_iff.mpr fun c mem => lower c (inside.subset mem)

/-- A name is in normal form exactly if it is in lower case and there is nothing to take off. -/
theorem normalChars_eq_self_iff {cs : List Char} :
    normalChars cs = cs ↔
      (∀ c ∈ cs, IsLower c) ∧ trimChars cs = cs ∧ cs.getLast? ≠ some '.' := by
  constructor
  · intro same
    have lower : ∀ c ∈ cs, IsLower c := by
      intro c mem
      rw [← same] at mem
      exact isLower_of_mem_lowercaseAfter mem
    rw [normalChars_of_lower lower] at same
    have trimmed : trimChars cs = cs := by
      apply (trimChars_sublist cs).antisymm
      have part := Bypass.withoutDot_sublist (trimChars cs)
      rwa [same] at part
    rw [trimmed] at same
    refine ⟨lower, trimmed, ?_⟩
    intro last
    rw [withoutDot, if_pos last] at same
    have shorter := congrArg List.length same
    rw [List.length_dropLast] at shorter
    have nonempty : cs ≠ [] := by
      rintro rfl
      cases last
    have positive := List.length_pos_of_ne_nil nonempty
    omega
  · rintro ⟨lower, trimmed, last⟩
    rw [normalChars_of_lower lower, trimmed, withoutDot_of_undotted last]

end Text

namespace Payload

open Json (lookup)

/-- The host of an endpoint ends neither in a dot nor in a blank. -/
def HasStableEnd (e : Endpoint) : Prop :=
  ∀ c, e.host.toList.getLast? = some c → c ≠ '.' ∧ Text.isBlank c = false

/-- The host of an endpoint is its own normal form exactly if it has nothing at its end to take
off. -/
theorem IsHostOf.normalName_eq_self_iff {text : String} {e : Endpoint}
    (host : IsHostOf text e.host) :
    Text.normalName e.host = e.host ↔ HasStableEnd e := by
  rw [← String.toList_inj, Text.normalName, String.toList_ofList, Text.normalChars_eq_self_iff,
    Text.trimChars_eq_self_iff, HasStableEnd]
  constructor
  · rintro ⟨_, ⟨_, last⟩, undotted⟩ c ends
    refine ⟨?_, last c ends⟩
    rintro rfl
    exact undotted ends
  · intro stable
    exact ⟨Text.lowercase_eq_self_iff.mp host.lower, ⟨host.first, fun c ends => (stable c ends).2⟩,
      fun ends => (stable '.' ends).1 rfl⟩

def endpointMembers (portKey hostKey : String) : Option Endpoint → Fields
  | none => []
  | some e => [(portKey, Json.ofNat e.port.toNat), (hostKey, .string e.host)]

/-- The flat fields that say what a snapshot says, in the order of their keys. -/
def exportedFields (c : Config) : Fields :=
  ("bypassList", .array (c.ruleTexts.map .string)) ::
    (endpointMembers "httpPort" "httpProxy" c.http ++
      endpointMembers "httpsPort" "httpsProxy" c.https ++
      [("proxyEnabled", .bool c.enabled), ("useForHttps", .bool c.useHttpForHttps)])

def exported (c : Config) : Json :=
  .object (exportedFields c)

def hostValue (o : Option Endpoint) : Option Json :=
  o.map fun e => .string e.host

def portValue (o : Option Endpoint) : Option Json :=
  o.map fun e => Json.ofNat e.port.toNat

section Fields

variable (c : Config)

theorem lookup_exportedFields :
    lookup "bypassList" (exportedFields c) = some (.array (c.ruleTexts.map .string)) ∧
    lookup "httpPort" (exportedFields c) = portValue c.http ∧
    lookup "httpsPort" (exportedFields c) = portValue c.https ∧
    lookup "proxyEnabled" (exportedFields c) = some (.bool c.enabled) ∧
    lookup "useForHttps" (exportedFields c) = some (.bool c.useHttpForHttps) ∧
    lookup "proxySettings" (exportedFields c) = none := by
  obtain ⟨enabled, http, https, shared, bypass, generation⟩ := c
  cases http <;> cases https <;> exact ⟨rfl, rfl, rfl, rfl, rfl, rfl⟩

theorem firstPresent?_exportedFields :
    firstPresent? (exportedFields c) httpHostKeys = hostValue c.http ∧
    firstPresent? (exportedFields c) httpsHostKeys = hostValue c.https := by
  obtain ⟨enabled, http, https, shared, bypass, generation⟩ := c
  cases http <;> cases https <;> exact ⟨rfl, rfl⟩

end Fields

/-! ## Reading what was written -/

theorem Endpoint.ofParts?_eq_some {e : Endpoint} (usable : e.IsUsable) :
    Endpoint.ofParts? e.host e.port = some e := by
  have host : e.host.isEmpty = false := String.isEmpty_eq_false_iff.mpr usable.host_ne_empty
  have port : (e.port == 0) = false := by
    rw [beq_eq_false_iff_ne]
    rintro zero
    have positive := usable.port_pos
    rw [zero] at positive
    exact absurd positive (by decide)
  rw [Endpoint.ofParts?, host, port]
  rfl

theorem value_readPort_ofNat (field : String) (p : UInt16) :
    (readPort field (some (Json.ofNat p.toNat))).value = p := by
  have small := p.toNat_lt
  have read : portOf? (Json.ofNat p.toNat) = some p := by
    show portOfInt? p.toNat = some p
    rw [portOfInt?_eq, if_neg (by omega), Int.toNat_natCast, UInt16.ofNat_toNat]
  rw [readPort_of_some field read]
  rfl

theorem value_readEndpoint (hostField portField : String) (host port : Option Json) :
    (readEndpoint hostField portField host port).value =
      Endpoint.ofParts? (readHost hostField host).value (readPort portField port).value :=
  rfl

/-- An endpoint is read back exactly if its host is its own normal form. -/
theorem readEndpoint_eq_iff (hostField portField : String) {o : Option Endpoint}
    (usable : ∀ e, o = some e → e.IsUsable) :
    (readEndpoint hostField portField (hostValue o) (portValue o)).value = o ↔
      ∀ e, o = some e → Text.normalName e.host = e.host := by
  cases o with
  | none =>
    have missing : Endpoint.ofParts? "" 0 = none := by decide
    rw [value_readEndpoint]
    exact iff_of_true missing (by simp)
  | some e =>
    have host : (readHost hostField (hostValue (some e))).value = Text.normalName e.host := rfl
    have port : (readPort portField (portValue (some e))).value = e.port :=
      value_readPort_ofNat portField e.port
    rw [value_readEndpoint, host, port]
    constructor
    · intro back e' found
      obtain rfl := Option.some.inj found
      exact (Endpoint.host_of_ofParts? back).symm
    · intro normal
      rw [normal e rfl, Endpoint.ofParts?_eq_some (usable e rfl)]

/-- What the payload made from a snapshot gives. -/
theorem hydrate_exported (c : Config) : (hydrate (exported c)).value = {
    enabled := c.enabled
    http := (readEndpoint "httpProxy" "httpPort" (hostValue c.http) (portValue c.http)).value
    https := if c.useHttpForHttps then none
      else (readEndpoint "httpsProxy" "httpsPort" (hostValue c.https) (portValue c.https)).value
    useHttpForHttps := c.useHttpForHttps
    bypass := (Bypass.rulesOf (.list c.ruleTexts)).value } := by
  obtain ⟨list, httpPort, httpsPort, enabled, flag, nested⟩ := lookup_exportedFields c
  obtain ⟨httpHost, httpsHost⟩ := firstPresent?_exportedFields c
  have shared : (readFlag (exportedFields c) "useForHttps").value = c.useHttpForHttps := by
    rw [readFlag, present?, flag]
    rfl
  have flat : readEndpoints (exportedFields c) = readFlat (exportedFields c) := by
    apply readEndpoints_of_no_nested
    rw [nestedRules?, nested]
    rfl
  apply Config.ext
  case enabled =>
    show (readEnabled (exportedFields c)).value = c.enabled
    rw [readEnabled, present?, enabled]
    rfl
  case http =>
    show (readEndpoints (exportedFields c) _).value.http = _
    rw [flat, ← httpHost, ← httpPort]
    rfl
  case https =>
    show (readEndpoints (exportedFields c) (readFlag _ "useForHttps").value).value.https = _
    rw [flat, shared, ← httpsHost, ← httpsPort]
    show (readHttps (exportedFields c) c.useHttpForHttps).value = _
    unfold readHttps
    split <;> rfl
  case useHttpForHttps =>
    show (readEndpoints (exportedFields c)
      (readFlag _ "useForHttps").value).value.useHttpForHttps = _
    rw [flat, shared]
    rfl
  case bypass => exact Lists.bypass_eq list
  case generation => rfl

/-- A snapshot comes back from its payload exactly if its hosts and its rules are stable. -/
theorem hydrate_exported_eq_iff {c : Config} (sound : c.IsSound)
    (shapes : c.bypass = c.ruleTexts.map Bypass.Rule.ofText) (fresh : c.generation = 0) :
    (hydrate (exported c)).value = c ↔
      (∀ e, c.http = some e → Text.normalName e.host = e.host) ∧
      (∀ e, c.https = some e → Text.normalName e.host = e.host) ∧
      Bypass.normalize (.list c.ruleTexts) = c.ruleTexts := by
  have http := readEndpoint_eq_iff "httpProxy" "httpPort" sound.http
  have https := readEndpoint_eq_iff "httpsProxy" "httpsPort" sound.https
  have apart : (if c.useHttpForHttps then none
      else (readEndpoint "httpsProxy" "httpsPort" (hostValue c.https) (portValue c.https)).value) =
        (readEndpoint "httpsProxy" "httpsPort" (hostValue c.https) (portValue c.https)).value := by
    split
    · next same =>
      rw [(sound.shared same).1]
      decide
    · rfl
  have texts : (Bypass.rulesOf (.list c.ruleTexts)).value = c.bypass ↔
      Bypass.normalize (.list c.ruleTexts) = c.ruleTexts := by
    have injective : Function.Injective Bypass.Rule.ofText := fun s t same =>
      congrArg Bypass.Rule.text same
    rw [Bypass.rulesOf_value, shapes]
    exact (List.map_injective_iff.mpr injective).eq_iff
  rw [hydrate_exported, Config.ext_iff, ← http, ← https, ← texts]
  simp only [apart, fresh, true_and, and_true]

theorem exists_isHostOf {payload : Json} {e : Endpoint}
    (found : (hydrate payload).value.http = some e ∨ (hydrate payload).value.https = some e) :
    ∃ text, IsHostOf text e.host := by
  cases payload with
  | object fields =>
    rcases found with http | https
    · obtain ⟨text, _, host⟩ := isHostOf_http http
      exact ⟨text, host⟩
    · obtain ⟨text, _, host⟩ := isHostOf_https https
      exact ⟨text, host⟩
  | null | bool | number | string | array => rcases found with http | https <;> contradiction

theorem bypass_eq_map_ruleTexts (payload : Json) :
    (hydrate payload).value.bypass =
      (hydrate payload).value.ruleTexts.map Bypass.Rule.ofText := by
  rw [Bypass.ruleTexts_hydrate, bypass_hydrate, Bypass.rulesOf_value]

/-- The snapshot of any payload comes back from the flat payload made from it, exactly if no host of
an endpoint ends in a dot or a blank and no text of a rule begins or ends with a dot. -/
theorem exported_comes_back_iff (payload : Json) :
    (hydrate (exported (hydrate payload).value)).value = (hydrate payload).value ↔
      (∀ e, (hydrate payload).value.http = some e ∨ (hydrate payload).value.https = some e →
        HasStableEnd e) ∧
      ∀ t ∈ (hydrate payload).value.ruleTexts,
        t.toList.head? ≠ some '.' ∧ t.toList.getLast? ≠ some '.' := by
  have fresh : (hydrate payload).value.generation = 0 := by
    cases payload <;> rfl
  have stable : ∀ e,
      (hydrate payload).value.http = some e ∨ (hydrate payload).value.https = some e →
      (Text.normalName e.host = e.host ↔ HasStableEnd e) := by
    intro e found
    obtain ⟨text, host⟩ := exists_isHostOf found
    exact host.normalName_eq_self_iff
  rw [hydrate_exported_eq_iff (isSound_hydrate payload) (bypass_eq_map_ruleTexts payload) fresh,
    Bypass.ruleTexts_hydrate, Bypass.normalize_normalize_iff, ← and_assoc]
  refine and_congr_left fun _ => ?_
  constructor
  · rintro ⟨http, https⟩ e (found | found)
    · exact (stable e (Or.inl found)).mp (http e found)
    · exact (stable e (Or.inr found)).mp (https e found)
  · intro ends
    exact ⟨fun e found => (stable e (Or.inl found)).mpr (ends e (Or.inl found)),
      fun e found => (stable e (Or.inr found)).mpr (ends e (Or.inr found))⟩

/-- A payload of the nested dialect, written down flat. -/
example : exported (hydrate (nestedPayload (.bool true) (.string "Chrome.Proxy.") (Json.ofNat 8080)
      (.string "b.com, .A.com"))).value =
    .object [
      ("bypassList", .array ((Bypass.defaults ++ ["b.com", "a.com"]).map .string)),
      ("httpPort", Json.ofNat 8080),
      ("httpProxy", .string "chrome.proxy"),
      ("proxyEnabled", .bool true),
      ("useForHttps", .bool true)] := by
  rfl

end Payload

end Egress
