import Egress.Proofs.NullFields
import Egress.Proofs.Ports
import Egress.Proofs.RulesOfPayloads

/-!
# What is reported of a payload

The reports of hydration, cause by cause. A field that the payload is asked for and that holds a
value of a type it cannot have is reported, with two exceptions. A mode that is no text is taken for
no mode; and the object of the nested dialect, its rules or the proxy in these are taken for absent
if they are no objects. Each of these goes unreported, as if the field were left out.

A port may also be of the right type and out of range, a mode may be unknown, and a rule may never
match. These are reported, too, so that the causes given here are all that there are.
-/

namespace Egress

namespace Traced

/-- What a list of computations reports is what some of them does. -/
theorem mem_events_all_iff {α : Type} {xs : List (Traced α)} {e : Event} :
    e ∈ (Traced.all xs).events ↔ ∃ x ∈ xs, e ∈ x.events := by
  induction xs with
  | nil => simp [Traced.all]
  | cons x xs ih =>
    simp only [Traced.all, events_bind, events_pure, List.append_nil, List.mem_append, ih,
      List.mem_cons, exists_eq_or_imp]

end Traced

/-- The values that consist of others. -/
def Json.IsContainer (v : Json) : Prop :=
  (∃ items, v = .array items) ∨ ∃ members, v = .object members

/-- The values that a host or a port may be given as. -/
def Json.IsTextual (v : Json) : Prop :=
  (∃ s, v = .string s) ∨ ∃ n, v = .number n

namespace Bypass

theorem mem_events_compile_iff {text : String} {e : Event} :
    e ∈ (Rule.compile text).events ↔
      ∃ error, (Shape.classify text).2 = some error ∧ e = .ruleMalformed text error := by
  unfold Rule.compile
  split
  · next fine => simp [fine]
  · next error malformed => simp [malformed]

theorem mem_events_rulesOf_iff {input : Input} {e : Event} :
    e ∈ (rulesOf input).events ↔ ∃ text ∈ normalize input, ∃ error,
      (Shape.classify text).2 = some error ∧ e = .ruleMalformed text error := by
  rw [rulesOf, compileAll, Traced.mem_events_all_iff]
  simp only [List.mem_map, exists_exists_and_eq_and, mem_events_compile_iff]

theorem mem_events_entryText_iff {v : Json} {e : Event} :
    e ∈ (entryText v).events ↔ v.IsContainer ∧ e = .entryIgnored v := by
  unfold Json.IsContainer
  cases v <;> simp [entryText]

theorem mem_events_entryTexts_iff {items : List Json} {e : Event} :
    e ∈ (entryTexts items).events ↔ ∃ v ∈ items, v.IsContainer ∧ e = .entryIgnored v := by
  induction items with
  | nil => simp [entryTexts]
  | cons v items ih =>
    simp only [entryTexts, Traced.events_bind, Traced.events_pure, List.append_nil, List.mem_append,
      ih, mem_events_entryText_iff, List.mem_cons, exists_eq_or_imp]

theorem mem_events_ofJson_iff {given : Option Json} {e : Event} :
    e ∈ (Input.ofJson given).events ↔
      (∃ members, given = some (.object members) ∧ e = .listIgnored (.object members)) ∨
      ∃ items, given = some (.array items) ∧ ∃ v ∈ items, v.IsContainer ∧ e = .entryIgnored v := by
  cases given with
  | none => simp [Input.ofJson]
  | some v =>
    cases v with
    | array items => simp [Input.ofJson, mem_events_entryTexts_iff]
    | null | bool | number | string | object => simp [Input.ofJson]

end Bypass

namespace Payload

open Json (lookup eraseMember mapMember onMembers)

/-- The endpoints that are read: what reports call the host and the port, and what these hold. -/
inductive ReadsEndpoint (fields : Fields) : String → String → Option Json → Option Json → Prop where
  | http (flat : activeRules? fields = none) :
      ReadsEndpoint fields "httpProxy" "httpPort" (firstPresent? fields httpHostKeys)
        (lookup "httpPort" fields)
  | https (flat : activeRules? fields = none)
      (apart : lookup "useForHttps" fields ≠ some (.bool true)) :
      ReadsEndpoint fields "httpsProxy" "httpsPort" (firstPresent? fields httpsHostKeys)
        (lookup "httpsPort" fields)
  | single {rules proxy : Fields} (nested : activeRules? fields = some rules)
      (object : lookup "singleProxy" rules = some (.object proxy)) :
      ReadsEndpoint fields "singleProxy.host" "singleProxy.port" (lookup "host" proxy)
        (lookup "port" proxy)

def listValue? (fields : Fields) : Option Json :=
  (present? fields "bypassList").or ((activeRules? fields).bind (lookup "bypassList"))

/-- The causes of reports. -/
inductive Reported (fields : Fields) : Event → Prop where
  | enabled {v : Json} (given : present? fields "proxyEnabled" = some v)
      (other : ∀ b, v ≠ .bool b) :
      Reported fields (.enabledNotBool v)
  | mode {m : String} (absent : present? fields "proxyEnabled" = none)
      (given : lookup "mode" fields = some (.string m)) (unknown : m ≠ "manual" ∧ m ≠ "none") :
      Reported fields (.modeUnknown m)
  | flag {v : Json} (given : present? fields "useForHttps" = some v) (other : ∀ b, v ≠ .bool b) :
      Reported fields (.flagNotBool "useForHttps" v)
  | host {hostField portField : String} {v : Json} {port : Option Json}
      (read : ReadsEndpoint fields hostField portField (some v) port) (given : v ≠ .null)
      (other : ¬ v.IsTextual) : Reported fields (.hostNotText hostField v)
  | port {hostField portField : String} {v : Json} {host : Option Json}
      (read : ReadsEndpoint fields hostField portField host (some v)) (given : v ≠ .null)
      (other : ¬ v.IsTextual) : Reported fields (.portInvalid portField)
  | portValue {hostField portField : String} {v : Json} {host : Option Json}
      (read : ReadsEndpoint fields hostField portField host (some v)) (textual : v.IsTextual)
      (refused : portOf? v = none) : Reported fields (.portInvalid portField)
  | nested {rules : Fields} (active : activeRules? fields = some rules) :
      Reported fields .nestedPayload
  | list {members : Fields} (read : listValue? fields = some (.object members)) :
      Reported fields (.listIgnored (.object members))
  | entry {items : List Json} {v : Json} (read : listValue? fields = some (.array items))
      (mem : v ∈ items) (container : v.IsContainer) : Reported fields (.entryIgnored v)
  | rule {text : String} {error : AddressError}
      (mem : text ∈ Bypass.normalize (listInput (.object fields)))
      (malformed : (Bypass.Shape.classify text).2 = some error) :
      Reported fields (.ruleMalformed text error)
  | hydrated : Reported fields .hydrated

variable {fields : Fields} {e : Event}

/-! ## Reports of the single readers -/

theorem mem_events_readMode_iff : e ∈ (readMode fields).events ↔
    ∃ m, lookup "mode" fields = some (.string m) ∧ (m ≠ "manual" ∧ m ≠ "none") ∧
      e = .modeUnknown m := by
  unfold readMode
  cases given : lookup "mode" fields with
  | none => simp
  | some v =>
    cases v with
    | string m =>
      rw [Option.bind_some]
      simp only [Json.string?]
      split
      · next manual => simp [manual]
      · split
        · next none => simp [none]
        · next manual none => simp [manual, none]
    | null | bool | number | array | object => simp [Json.string?]

theorem mem_events_readEnabled_iff : e ∈ (readEnabled fields).events ↔
    (∃ v, present? fields "proxyEnabled" = some v ∧ (∀ b, v ≠ .bool b) ∧ e = .enabledNotBool v) ∨
      present? fields "proxyEnabled" = none ∧ e ∈ (readMode fields).events := by
  unfold readEnabled
  cases given : present? fields "proxyEnabled" with
  | none => simp
  | some v => cases v <;> simp

theorem mem_events_readFlag_iff {key : String} : e ∈ (readFlag fields key).events ↔
    ∃ v, present? fields key = some v ∧ (∀ b, v ≠ .bool b) ∧ e = .flagNotBool key v := by
  unfold readFlag
  cases given : present? fields key with
  | none => simp
  | some v => cases v <;> simp

theorem mem_events_readHost_iff {field : String} {host : Option Json} :
    e ∈ (readHost field host).events ↔
      ∃ v, host = some v ∧ v ≠ .null ∧ ¬ v.IsTextual ∧ e = .hostNotText field v := by
  unfold Json.IsTextual
  cases host with
  | none => simp [readHost]
  | some v => cases v <;> simp [readHost]

theorem mem_events_readPort_iff {field : String} {port : Option Json} :
    e ∈ (readPort field port).events ↔
      ∃ v, port = some v ∧ portOf? v = none ∧ e = .portInvalid field := by
  cases port with
  | none => simp [readPort]
  | some v =>
    cases read : portOf? v with
    | none => simp [readPort_of_none field read, read]
    | some p => simp [readPort_of_some field read, read]

theorem mem_events_readEndpoint_iff {hostField portField : String} {host port : Option Json} :
    e ∈ (readEndpoint hostField portField host port).events ↔
      e ∈ (readHost hostField host).events ∨ e ∈ (readPort portField port).events := by
  simp only [readEndpoint, Traced.events_bind, Traced.events_pure, List.append_nil, List.mem_append]

theorem mem_events_readSingleProxy_iff {rules : Fields} : e ∈ (readSingleProxy rules).events ↔
    ∃ proxy, lookup "singleProxy" rules = some (.object proxy) ∧
      e ∈ (readEndpoint "singleProxy.host" "singleProxy.port" (lookup "host" proxy)
        (lookup "port" proxy)).events := by
  unfold readSingleProxy
  cases given : lookup "singleProxy" rules with
  | none => simp
  | some v => cases v <;> simp [Json.members?]

/-- The flag is set by the value true and by no other. -/
theorem readFlag_value_eq_false_iff {key : String} :
    (readFlag fields key).value = false ↔ lookup key fields ≠ some (.bool true) := by
  unfold readFlag present?
  cases lookup key fields with
  | none => exact iff_of_true rfl (by simp)
  | some v =>
    cases v with
    | bool b =>
      cases b with
      | false => exact iff_of_true rfl (by simp)
      | true => exact iff_of_false (fun off : true = false => by cases off) (by simp)
    | null | number | string | array | object => exact iff_of_true rfl (by simp)

/-- The endpoints are read one by one, and of the nested dialect it is reported that it counts. -/
theorem mem_events_readEndpoints_iff :
    e ∈ (readEndpoints fields (readFlag fields "useForHttps").value).events ↔
      (∃ hostField portField host port, ReadsEndpoint fields hostField portField host port ∧
        e ∈ (readEndpoint hostField portField host port).events) ∨
      ∃ rules, activeRules? fields = some rules ∧ e = .nestedPayload := by
  have flag : (readFlag fields "useForHttps").value = false ↔
      lookup "useForHttps" fields ≠ some (.bool true) := readFlag_value_eq_false_iff
  unfold readEndpoints
  cases active : activeRules? fields with
  | some rules =>
    simp only [readNested, Traced.events_bind, Traced.events_report, Traced.events_pure,
      List.append_nil, List.mem_append, List.mem_singleton, mem_events_readSingleProxy_iff]
    constructor
    · rintro (⟨proxy, object, read⟩ | rfl)
      · exact Or.inl ⟨_, _, _, _, .single active object, read⟩
      · exact Or.inr ⟨rules, rfl, rfl⟩
    · rintro (⟨_, _, _, _, reads, read⟩ | ⟨_, _, rfl⟩)
      · cases reads with
        | http flat | https flat => rw [active] at flat; cases flat
        | single nested object =>
          obtain rfl := Option.some.inj (active.symm.trans nested)
          exact Or.inl ⟨_, object, read⟩
      · exact Or.inr rfl
  | none =>
    simp only [readFlat, readHttp, readHttps, Traced.events_bind, Traced.events_pure,
      List.append_nil, List.mem_append]
    constructor
    · rintro (read | read)
      · exact Or.inl ⟨_, _, _, _, .http active, read⟩
      · split at read
        · cases read
        · next apart =>
            exact Or.inl ⟨_, _, _, _, .https active (flag.mp (by simpa using apart)), read⟩
    · rintro (⟨_, _, _, _, reads, read⟩ | ⟨_, none, _⟩)
      · cases reads with
        | http => exact Or.inl read
        | https _ apart =>
          rw [flag.mpr apart]
          exact Or.inr read
        | single nested => rw [active] at nested; cases nested
      · cases none

theorem listValue?_eq (flag : Bool) :
    (present? fields "bypassList").or (readEndpoints fields flag).value.bypass =
      listValue? fields := by
  unfold readEndpoints listValue?
  cases activeRules? fields <;> rfl

theorem portOf?_of_not_textual {v : Json} (given : v ≠ .null) (other : ¬ v.IsTextual) :
    portOf? v = none := by
  cases v with
  | null => exact absurd rfl given
  | number n => exact absurd (Or.inr ⟨n, rfl⟩) other
  | string s => exact absurd (Or.inl ⟨s, rfl⟩) other
  | bool | array | object => rfl

/-- What is reported of a payload has one of the causes, and each of them is reported. -/
theorem mem_events_hydrate_iff : e ∈ (hydrate (.object fields)).events ↔ Reported fields e := by
  have list : listInput (.object fields) = (Bypass.Input.ofJson (listValue? fields)).value := by
    rw [listInput, listValue?_eq]
  have parts : e ∈ (hydrate (.object fields)).events ↔
      e ∈ (readEnabled fields).events ∨ e ∈ (readFlag fields "useForHttps").events ∨
      e ∈ (readEndpoints fields (readFlag fields "useForHttps").value).events ∨
      (e ∈ (Bypass.Input.ofJson (listValue? fields)).events ∨
        e ∈ (Bypass.rulesOf (listInput (.object fields))).events) ∨ e = .hydrated := by
    rw [list]
    simp only [hydrate, hydrateFields, readBypass, Traced.events_bind, Traced.events_report,
      Traced.events_pure, List.append_nil, List.mem_append, List.mem_singleton, listValue?_eq]
  rw [parts, mem_events_readEnabled_iff, mem_events_readMode_iff, mem_events_readFlag_iff,
    mem_events_readEndpoints_iff, Bypass.mem_events_ofJson_iff, Bypass.mem_events_rulesOf_iff]
  constructor
  · rintro ((⟨v, given, other, rfl⟩ | ⟨absent, m, given, unknown, rfl⟩) | ⟨v, given, other, rfl⟩ |
      (⟨hf, pf, host, port, reads, read⟩ | ⟨rules, active, rfl⟩) |
      ((⟨members, read, rfl⟩ | ⟨items, read, v, mem, container, rfl⟩) |
        ⟨text, mem, error, malformed, rfl⟩) | rfl)
    · exact .enabled given other
    · exact .mode absent given unknown
    · exact .flag given other
    · rcases mem_events_readEndpoint_iff.mp read with read | read
      · obtain ⟨v, rfl, given, other, rfl⟩ := mem_events_readHost_iff.mp read
        exact .host reads given other
      · obtain ⟨v, rfl, refused, rfl⟩ := mem_events_readPort_iff.mp read
        by_cases textual : v.IsTextual
        · exact .portValue reads textual refused
        · refine .port reads ?_ textual
          rintro rfl
          cases refused
    · exact .nested active
    · exact .list read
    · exact .entry read mem container
    · exact .rule mem malformed
    · exact .hydrated
  · intro reported
    -- The reports of an endpoint are those of its host and those of its port.
    have ofEndpoint : ∀ {hostField portField : String} {host port : Option Json},
        ReadsEndpoint fields hostField portField host port →
        e ∈ (readHost hostField host).events ∨ e ∈ (readPort portField port).events →
        ∃ hostField portField host port, ReadsEndpoint fields hostField portField host port ∧
          e ∈ (readEndpoint hostField portField host port).events :=
      fun reads read => ⟨_, _, _, _, reads, mem_events_readEndpoint_iff.mpr read⟩
    cases reported with
    | enabled given other => exact Or.inl (Or.inl ⟨_, given, other, rfl⟩)
    | mode absent given unknown => exact Or.inl (Or.inr ⟨absent, _, given, unknown, rfl⟩)
    | flag given other => exact Or.inr (Or.inl ⟨_, given, other, rfl⟩)
    | @host hostField _ v _ read given other =>
      have host : _ ∈ (readHost hostField (some v)).events :=
        mem_events_readHost_iff.mpr ⟨v, rfl, given, other, rfl⟩
      exact Or.inr (Or.inr (Or.inl (Or.inl (ofEndpoint read (Or.inl host)))))
    | @port _ portField v _ read given other =>
      have port : _ ∈ (readPort portField (some v)).events :=
        mem_events_readPort_iff.mpr ⟨v, rfl, portOf?_of_not_textual given other, rfl⟩
      exact Or.inr (Or.inr (Or.inl (Or.inl (ofEndpoint read (Or.inr port)))))
    | @portValue _ portField v _ read _ refused =>
      have port : _ ∈ (readPort portField (some v)).events :=
        mem_events_readPort_iff.mpr ⟨v, rfl, refused, rfl⟩
      exact Or.inr (Or.inr (Or.inl (Or.inl (ofEndpoint read (Or.inr port)))))
    | nested active => exact Or.inr (Or.inr (Or.inl (Or.inr ⟨_, active, rfl⟩)))
    | list read => exact Or.inr (Or.inr (Or.inr (Or.inl (Or.inl (Or.inl ⟨_, read, rfl⟩)))))
    | entry read mem container =>
      exact Or.inr (Or.inr (Or.inr (Or.inl (Or.inl (Or.inr ⟨_, read, _, mem, container, rfl⟩)))))
    | rule mem malformed =>
      exact Or.inr (Or.inr (Or.inr (Or.inl (Or.inr ⟨_, mem, _, malformed, rfl⟩))))
    | hydrated => exact Or.inr (Or.inr (Or.inr (Or.inr rfl)))

/-- All causes but two are warnings: which dialect counts, and that there is a snapshot, is reported
for the record only. -/
theorem Reported.level_eq_warn (reported : Reported fields e) :
    e.level = .warn ∨ e = .nestedPayload ∨ e = .hydrated := by
  cases reported with
  | nested => exact Or.inr (Or.inl rfl)
  | hydrated => exact Or.inr (Or.inr rfl)
  | enabled | mode | flag | host | port | portValue | list | entry | rule => exact Or.inl rfl

/-! ## Values that are passed over -/

theorem hydrate_without_mode (unusable : ∀ m, lookup "mode" fields ≠ some (.string m)) :
    hydrate (.object (eraseMember "mode" fields)) = hydrate (.object fields) := by
  have kept : ∀ keys, "mode" ∉ keys → ∀ key ∈ keys,
      lookup key (eraseMember "mode" fields) = lookup key fields :=
    fun keys apart => Json.lookup_eraseMember_of_not_mem apart fields
  have unread : (lookup "mode" fields).bind Json.string? = none := by
    cases given : lookup "mode" fields with
    | none => rfl
    | some v =>
      cases v with
      | string m => exact absurd given (unusable m)
      | null | bool | number | array | object => rfl
  have mode : readMode (eraseMember "mode" fields) = readMode fields := by
    rw [readMode, readMode, unread, Json.lookup_eraseMember]
    rfl
  have enabled : readEnabled (eraseMember "mode" fields) = readEnabled fields := by
    rw [readEnabled, readEnabled, mode,
      present?_congr (kept ["proxyEnabled"] (by decide) _ (by simp))]
  exact hydrate_congr_of_lookups enabled (firstPresent?_congr (kept httpHostKeys (by decide)))
    (firstPresent?_congr (kept httpsHostKeys (by decide))) (kept plainKeys (by decide))

def withoutSingleProxy (fields : Fields) : Fields :=
  mapMember "proxySettings" (onMembers (mapMember "rules" (onMembers (eraseMember "singleProxy"))))
    fields

theorem nestedRules?_withoutSingleProxy (fields : Fields) :
    nestedRules? (withoutSingleProxy fields) =
      (nestedRules? fields).map (eraseMember "singleProxy") := by
  have inner : (Json.members? ∘ onMembers (eraseMember "singleProxy")) =
      fun v => v.members?.map (eraseMember "singleProxy") :=
    funext (Json.members?_onMembers _)
  rw [nestedRules?, nestedRules?, withoutSingleProxy, Json.lookup_mapMember]
  cases lookup "proxySettings" fields with
  | none => rfl
  | some v =>
    cases v with
    | object settings =>
      show (lookup "rules" (mapMember "rules" _ settings)).bind Json.members? =
        ((lookup "rules" settings).bind Json.members?).map (eraseMember "singleProxy")
      rw [Json.lookup_mapMember, Option.bind_map, inner, Option.map_bind]
      rfl
    | null | bool | number | string | array => rfl

theorem readNested_eraseMember {rules : Fields}
    (unusable : ∀ proxy, lookup "singleProxy" rules ≠ some (.object proxy)) :
    readNested (eraseMember "singleProxy" rules) = readNested rules := by
  have unread : (lookup "singleProxy" rules).bind Json.members? = none := by
    cases given : lookup "singleProxy" rules with
    | none => rfl
    | some v =>
      cases v with
      | object proxy => exact absurd given (unusable proxy)
      | null | bool | number | string | array => rfl
  rw [readNested, readNested, readSingleProxy, readSingleProxy, unread, Json.lookup_eraseMember,
    Json.lookup_eraseMember_of_ne (by decide)]
  rfl

theorem hydrate_withoutSingleProxy (unusable : ∀ rules, nestedRules? fields = some rules →
      ∀ proxy, lookup "singleProxy" rules ≠ some (.object proxy)) :
    hydrate (.object (withoutSingleProxy fields)) = hydrate (.object fields) := by
  have kept : ∀ keys : List String, "proxySettings" ∉ keys → ∀ key ∈ keys,
      lookup key (withoutSingleProxy fields) = lookup key fields := by
    intro keys apart key mem
    exact Json.lookup_mapMember_of_ne (ne_of_mem_of_not_mem mem apart).symm _ _
  have others := kept
    ["proxyEnabled", "mode", "useForHttps", "bypassList", "httpPort", "httpsPort"] (by decide)
  have httpHost := firstPresent?_congr (kept httpHostKeys (by decide))
  have flat : readFlat (withoutSingleProxy fields) = readFlat fields :=
    readFlat_congr httpHost (others "httpPort" (by simp))
      (firstPresent?_congr (kept httpsHostKeys (by decide))) (others "httpsPort" (by simp))
  have endpoints : readEndpoints (withoutSingleProxy fields) = readEndpoints fields := by
    funext shared
    rw [readEndpoints, readEndpoints, activeRules?, activeRules?, httpHost,
      nestedRules?_withoutSingleProxy, flat]
    by_cases given : (firstPresent? fields httpHostKeys).isSome = true
    · rw [if_pos given, if_pos given]
    · rw [if_neg given, if_neg given]
      cases nested : nestedRules? fields with
      | none => rfl
      | some rules => exact readNested_eraseMember (unusable rules nested)
  exact hydrate_congr
    (readEnabled_congr (others "proxyEnabled" (by simp)) (others "mode" (by simp)))
    (readFlag_congr (others "useForHttps" (by simp))) endpoints
    (readBypass_congr (others "bypassList" (by simp)))

/-- The reports on a payload are those of the given causes, each a warning except for two, and no
others. A mode that is no text is not among the causes, and neither is an object of the nested
dialect, its rules or its proxy that is no object: the payload is read, and reported on, as if it
were left out. -/
theorem reports_have_causes (fields : Fields) :
    (∀ e, e ∈ (hydrate (.object fields)).events ↔ Reported fields e) ∧
    (∀ e, Reported fields e → e.level = .warn ∨ e = .nestedPayload ∨ e = .hydrated) ∧
    ((∀ m, lookup "mode" fields ≠ some (.string m)) →
      hydrate (.object (eraseMember "mode" fields)) = hydrate (.object fields)) ∧
    (nestedRules? fields = none →
      hydrate (.object (eraseMember "proxySettings" fields)) = hydrate (.object fields)) ∧
    ((∀ rules, nestedRules? fields = some rules →
        ∀ proxy, lookup "singleProxy" rules ≠ some (.object proxy)) →
      hydrate (.object (withoutSingleProxy fields)) = hydrate (.object fields)) :=
  ⟨fun _ => mem_events_hydrate_iff, fun _ => Reported.level_eq_warn, hydrate_without_mode,
    fun missing => hydrate_without_nested (Or.inr missing), hydrate_withoutSingleProxy⟩

def numberedMode : Fields := [("mode", Json.ofNat 5)]

/-- A text in the place of the object of the nested dialect. -/
def textualSettings : Fields := [("proxySettings", .string "proxy.local:8080")]

/-- A list in the place of the rules of the nested dialect. -/
def listedRules : Fields := [("proxySettings", .object [("rules", .array [])])]

def textualProxy : Fields :=
  [("proxySettings", .object [("rules", .object [("singleProxy", .string "proxy.local:8080")])])]

theorem reports_have_causes_passed_over :
    ((∀ m, lookup "mode" numberedMode ≠ some (.string m)) ∧
      hydrate (.object (eraseMember "mode" numberedMode)) = hydrate (.object numberedMode)) ∧
    (nestedRules? listedRules = none ∧
      hydrate (.object (eraseMember "proxySettings" listedRules)) = hydrate (.object listedRules)) ∧
    ((∀ rules, nestedRules? textualProxy = some rules →
        ∀ proxy, lookup "singleProxy" rules ≠ some (.object proxy)) ∧
      hydrate (.object (withoutSingleProxy textualProxy)) = hydrate (.object textualProxy)) := by
  have mode : ∀ m, lookup "mode" numberedMode ≠ some (.string m) := by
    intro m given
    cases given
  have proxy : ∀ rules, nestedRules? textualProxy = some rules →
      ∀ proxy, lookup "singleProxy" rules ≠ some (.object proxy) := by
    intro rules nested proxy given
    obtain rfl := Option.some.inj nested
    cases given
  exact ⟨⟨mode, (reports_have_causes numberedMode).2.2.1 mode⟩,
    ⟨rfl, (reports_have_causes listedRules).2.2.2.1 rfl⟩,
    ⟨proxy, (reports_have_causes textualProxy).2.2.2.2 proxy⟩⟩

/-- Four fields that are read, each with a value of a type that it cannot have, and no warning. -/
theorem malformed_unreported :
    (∀ fields ∈ [numberedMode, textualSettings, listedRules, textualProxy],
      present? fields "proxyEnabled" = none ∧ firstPresent? fields httpHostKeys = none ∧
        (hydrate (.object fields)).events.any Event.isAlarm = false) ∧
    present? numberedMode "mode" = some (Json.ofNat 5) ∧
    present? textualSettings "proxySettings" = some (.string "proxy.local:8080") ∧
    (present? listedRules "proxySettings").bind (·.get? "rules") = some (.array []) ∧
    (nestedRules? textualProxy).bind (lookup "singleProxy") =
      some (.string "proxy.local:8080") := by
  refine ⟨?_, rfl, rfl, rfl, rfl⟩
  simp only [List.forall_mem_cons, List.not_mem_nil, false_imp_iff, implies_true, and_true]
  refine ⟨⟨rfl, rfl, ?_⟩, ⟨rfl, rfl, ?_⟩, ⟨rfl, rfl, ?_⟩, rfl, rfl, ?_⟩
  all_goals decide +kernel

end Payload

end Egress
