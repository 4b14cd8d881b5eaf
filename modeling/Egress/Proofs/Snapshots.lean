import Egress.Proofs.NameRules
import Egress.Proofs.Reached
import Egress.Proofs.StableLists

/-!
# What every snapshot is like

A decision relies on its snapshot: that an endpoint can be connected to, that there is no second
endpoint where one is to serve both schemes, and that the rules are the built-in ones and then
others, none of them twice, each with the shape its text gives it. A payload is never refused, so
all this has to come out of hydration, whatever dialect the payload is written in and whatever its
fields hold.
-/

namespace Egress

/-! ## Shapes -/

namespace Bypass

/-- The texts that each shape is for. -/
inductive Shape.IsFor : String → Shape → Prop where
  | loopback {text : String} (own : text ∈ ownNames) : IsFor text .loopback
  | block {text : String} {b : Block} (slashed : '/' ∈ text.toList)
      (parses : Block.parse text = .ok b) : IsFor text (.block b)
  | malformed {text : String} {e : AddressError} (slashed : '/' ∈ text.toList)
      (fails : Block.parse text = .error e) : IsFor text .malformed
  | wildcard {domain : String} (unslashed : '/' ∉ domain.toList) :
      IsFor ("*." ++ domain) (.wildcard ("." ++ domain))
  | bare {text : String} (other : text ∉ ownNames) (unslashed : '/' ∉ text.toList)
      (plain : ∀ domain, text ≠ "*." ++ domain) : IsFor text (.bare ("." ++ text))

theorem Shape.classify_isFor (text : String) : Shape.IsFor text (Shape.classify text).1 := by
  by_cases own : text ∈ ownNames
  · rw [Shape.classify, (isLoopback_iff text).mpr own]
    exact .loopback own
  · by_cases slashed : '/' ∈ text.toList
    · have other := (isLoopback_eq_false_iff text).mpr own
      have contains : text.toList.contains '/' = true := List.contains_iff_mem.mpr slashed
      cases parses : Block.parse text with
      | ok b =>
        simp only [Shape.classify, other, contains, Shape.ofSlashed, parses, Except.map]
        exact .block slashed parses
      | error e =>
        simp only [Shape.classify, other, contains, Shape.ofSlashed, parses, Except.map]
        exact .malformed slashed parses
    · rw [Shape.classify_name own slashed]
      by_cases starred : ∃ domain, text = "*." ++ domain
      · obtain ⟨domain, rfl⟩ := starred
        rw [Shape.ofName_wildcard, ofList_dot_cons]
        exact .wildcard (by simpa using slashed)
      · have plain := not_exists.mp starred
        rw [Shape.ofName_bare plain, ofList_dot_cons]
        exact .bare own slashed plain

end Bypass

/-! ## Endpoints -/

structure Endpoint.IsUsable (e : Endpoint) : Prop where
  host_ne_empty : e.host ≠ ""
  port_pos : 1 ≤ e.port.toNat
  port_le : e.port.toNat ≤ 65535

theorem Endpoint.isUsable_of_ofParts? {host : String} {port : UInt16} {e : Endpoint}
    (made : Endpoint.ofParts? host port = some e) : e.IsUsable := by
  unfold Endpoint.ofParts? at made
  split at made
  · cases made
  · next complete =>
    obtain rfl := Option.some.inj made
    rw [Bool.or_eq_true, String.isEmpty_iff, beq_iff_eq, not_or] at complete
    have nonzero : port.toNat ≠ 0 := fun zero => complete.2 (UInt16.toNat_inj.mp zero)
    exact ⟨complete.1, Nat.pos_of_ne_zero nonzero, Nat.le_of_lt_succ port.toNat_lt⟩

namespace Payload

theorem isUsable_readEndpoint {hostField portField : String} {host port : Option Json}
    {e : Endpoint} (made : (readEndpoint hostField portField host port).value = some e) :
    e.IsUsable :=
  Endpoint.isUsable_of_ofParts? made

/-- The endpoints that are read can be connected to, and there is none for `https` where that for
`http` serves both. -/
structure Endpoints.IsSound (e : Endpoints) : Prop where
  http : ∀ p, e.http = some p → p.IsUsable
  https : ∀ p, e.https = some p → p.IsUsable
  shared : e.useHttpForHttps = true → e.https = none

theorem isSound_readFlat (fields : Fields) (shared : Bool) :
    (readFlat fields shared).value.IsSound := by
  constructor
  · intro p made
    exact isUsable_readEndpoint made
  · intro p made
    cases shared with
    | true => cases made
    | false => exact isUsable_readEndpoint made
  · intro same
    have isTrue : shared = true := same
    rw [isTrue]
    rfl

theorem isSound_readNested (rules : Fields) : (readNested rules).value.IsSound := by
  constructor
  · intro p made
    have read : (readSingleProxy rules).value = some p := made
    unfold readSingleProxy at read
    split at read
    · cases read
    · exact isUsable_readEndpoint read
  · intro p made
    cases made
  · intro _
    rfl

theorem isSound_readEndpoints (fields : Fields) (shared : Bool) :
    (readEndpoints fields shared).value.IsSound := by
  unfold readEndpoints
  split
  · exact isSound_readNested _
  · exact isSound_readFlat fields shared

end Payload

/-! ## Snapshots -/

/-- What a decision relies on. -/
structure Config.IsSound (c : Config) : Prop where
  http : ∀ e, c.http = some e → e.IsUsable
  https : ∀ e, c.https = some e → e.IsUsable
  shared : c.useHttpForHttps = true → c.https = none ∧ c.httpsEndpoint = c.http
  texts : ∃ own, c.ruleTexts = Bypass.defaults ++ own ∧ own.Nodup ∧
    ∀ t ∈ own, t ≠ "" ∧ t ∉ Bypass.defaults
  shapes : ∀ r ∈ c.bypass,
    r.shape = (Bypass.Shape.classify r.text).1 ∧ Bypass.Shape.IsFor r.text r.shape

namespace Payload

/-- The rules of a payload are the built-in ones and then others, each of them once. -/
theorem exists_own_ruleTexts (payload : Json) :
    ∃ own, (hydrate payload).value.ruleTexts = Bypass.defaults ++ own ∧ own.Nodup ∧
      ∀ t ∈ own, t ≠ "" ∧ t ∉ Bypass.defaults := by
  have texts := Bypass.ruleTexts_hydrate payload
  rw [Bypass.normalize_eq] at texts
  refine ⟨_, texts, Bypass.nodup_distinctFrom _ _, ?_⟩
  intro t mem
  obtain ⟨given, new⟩ := Bypass.mem_distinctFrom_iff.mp mem
  have nonempty := (List.mem_filter.mp given).2
  exact ⟨by simpa using nonempty, new⟩

theorem shape_of_mem_bypass {payload : Json} {r : Bypass.Rule}
    (mem : r ∈ (hydrate payload).value.bypass) : r.shape = (Bypass.Shape.classify r.text).1 := by
  rw [bypass_hydrate, Bypass.rulesOf_value] at mem
  obtain ⟨text, _, rfl⟩ := List.mem_map.mp mem
  rfl

theorem endpoints_hydrate (fields : Fields) :
    ∃ e : Endpoints, e.IsSound ∧ (hydrate (.object fields)).value.http = e.http ∧
      (hydrate (.object fields)).value.https = e.https ∧
      (hydrate (.object fields)).value.useHttpForHttps = e.useHttpForHttps :=
  ⟨_, isSound_readEndpoints fields (readFlag fields "useForHttps").value, rfl, rfl, rfl⟩

/-- A payload that is no object leaves proxying off, with nothing but the built-in rules. -/
theorem hydrate_of_not_object {payload : Json} (other : ∀ fields, payload ≠ .object fields) :
    (hydrate payload).value = { bypass := Bypass.defaults.map Bypass.Rule.ofText } := by
  have rules : (Bypass.rulesOf .absent).value = Bypass.defaults.map Bypass.Rule.ofText := by
    rw [Bypass.rulesOf_value, Bypass.normalize_eq]
    exact congrArg _ (List.append_nil _)
  cases payload with
  | object fields => exact absurd rfl (other fields)
  | null | bool | number | string | array =>
    rw [← rules]
    rfl

theorem isSound_hydrate (payload : Json) : (hydrate payload).value.IsSound := by
  have shapes : ∀ r ∈ (hydrate payload).value.bypass,
      r.shape = (Bypass.Shape.classify r.text).1 ∧ Bypass.Shape.IsFor r.text r.shape := by
    intro r mem
    have shape := shape_of_mem_bypass mem
    refine ⟨shape, ?_⟩
    rw [shape]
    exact Bypass.Shape.classify_isFor r.text
  have texts := exists_own_ruleTexts payload
  cases payload with
  | object fields =>
    obtain ⟨e, sound, http, https, shared⟩ := endpoints_hydrate fields
    refine ⟨?_, ?_, ?_, texts, shapes⟩
    · rw [http]
      exact sound.http
    · rw [https]
      exact sound.https
    · intro same
      refine ⟨https.trans (sound.shared (shared.symm.trans same)), ?_⟩
      rw [Config.httpsEndpoint, if_pos same]
  | null | bool | number | string | array =>
    refine ⟨?_, ?_, ?_, texts, shapes⟩
    · intro e found
      cases found
    · intro e found
      cases found
    · intro same
      cases same

theorem isSound_lasting : Config.IsLasting Config.IsSound where
  hydrated := isSound_hydrate
  stamped _ _ sound := ⟨sound.http, sound.https, sound.shared, sound.texts, sound.shapes⟩

end Payload

/-- Every payload gives a sound snapshot, one that is no object gives that with proxying off and the
built-in rules alone, and a session that begins with a payload never has another live or held. -/
theorem snapshots_sound :
    (∀ payload : Json, (Payload.hydrate payload).value.IsSound) ∧
    (∀ payload : Json, (∀ fields, payload ≠ .object fields) →
      (Payload.hydrate payload).value = { bypass := Bypass.defaults.map Bypass.Rule.ofText }) ∧
    (∀ o : Live.Origin, o.IsHydrated → ∀ rs : List Request, ∀ c,
      c = (Session.history o rs).value.1.live.current ∨
        c ∈ (Session.history o rs).value.1.held → c.IsSound) := by
  refine ⟨Payload.isSound_hydrate, fun _ other => Payload.hydrate_of_not_object other, ?_⟩
  intro o hydrated rs c reached
  have all := Session.throughout_history Payload.isSound_lasting hydrated rs
  rcases reached with rfl | held
  · exact all.live
  · exact all.held c held

end Egress
