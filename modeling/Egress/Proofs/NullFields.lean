import Egress.Proofs.Dialects

/-!
# Null means absent

A payload says the same with and without its nulls: those among its own members, among the members
of the objects that the nested dialect consists of, and among the entries of its bypass lists.
Neither the snapshot nor anything that is reported on the way changes when all of them are left out.

A member is left out by the value that its key is looked up with. In an object that has each key
once this is the member's own value.
-/

namespace Egress

attribute [ext] Traced

theorem Traced.bind_map {α β γ : Type} (f : α → β) (x : Traced α) (g : β → Traced γ) :
    (f <$> x) >>= g = x >>= fun a => g (f a) := by
  apply Traced.ext
  case value => rfl
  case events => rw [events_bind, events_map, events_bind, value_map]
  case metrics => rw [metrics_bind, metrics_map, metrics_bind, value_map]

namespace Json

def presentMembers (members : List (String × Json)) : List (String × Json) :=
  members.filter fun m => !(lookup m.1 members).any isNull

theorem lookup_of_mem {members : List (String × Json)} (once : (members.map Prod.fst).Nodup)
    {key : String} {value : Json} (mem : (key, value) ∈ members) :
    lookup key members = some value := by
  induction members with
  | nil => cases mem
  | cons m members ih =>
    rw [List.map_cons, List.nodup_cons] at once
    rcases List.mem_cons.mp mem with rfl | later
    · exact lookup_cons_self key value members
    · have differs : m.1 ≠ key := by
        rintro rfl
        exact once.1 (List.mem_map.mpr ⟨_, later, rfl⟩)
      rw [← ih once.2 later]
      exact lookup_cons_of_ne differs m.2 members

/-- In an object that has each key once, the members that are not null are left. -/
theorem presentMembers_eq_filter {members : List (String × Json)}
    (once : (members.map Prod.fst).Nodup) :
    presentMembers members = members.filter fun m => !m.2.isNull := by
  refine List.filter_congr ?_
  rintro ⟨key, value⟩ mem
  rw [lookup_of_mem once mem, Option.any_some]

theorem lookup_presentMembers (key : String) (members : List (String × Json)) :
    lookup key (presentMembers members) = (lookup key members).filter fun v => !v.isNull := by
  rw [presentMembers, lookup_filter fun k => !(lookup k members).any isNull]
  cases lookup key members with
  | none => exact ite_self none
  | some v => cases v <;> rfl

/-- An object with its members changed by a function; other values stay. -/
def onMembers (f : List (String × Json) → List (String × Json)) : Json → Json
  | object members => object (f members)
  | v => v

theorem members?_onMembers (f : List (String × Json) → List (String × Json)) (v : Json) :
    (onMembers f v).members? = v.members?.map f := by
  cases v <;> rfl

/-- A list without its nulls; other values stay. -/
def withoutNullItems : Json → Json
  | array items => array (items.filter fun v => !v.isNull)
  | v => v

end Json

namespace Payload

open Json (lookup presentMembers mapMember onMembers withoutNullItems)

def rulesWithoutNulls (rules : Fields) : Fields :=
  mapMember "singleProxy" (onMembers presentMembers)
    (mapMember "bypassList" withoutNullItems (presentMembers rules))

def settingsWithoutNulls (settings : Fields) : Fields :=
  mapMember "rules" (onMembers rulesWithoutNulls) (presentMembers settings)

def fieldsWithoutNulls (fields : Fields) : Fields :=
  mapMember "proxySettings" (onMembers settingsWithoutNulls)
    (mapMember "bypassList" withoutNullItems (presentMembers fields))

def withoutNulls (payload : Json) : Json :=
  payload.onMembers fieldsWithoutNulls

/-! ## Values that are read through a null -/

/-- What a null gives nothing for is not changed when a null is left out. -/
theorem bind_filter_of_null {α : Type} {f : Json → Option α} (null : f .null = none)
    (given : Option Json) : (given.filter fun v => !v.isNull).bind f = given.bind f := by
  cases given with
  | none => rfl
  | some v =>
    cases v with
    | null => exact null.symm
    | bool | number | string | array | object => rfl

theorem readPort_filter (field : String) (port : Option Json) :
    readPort field (port.filter fun v => !v.isNull) = readPort field port := by
  cases port with
  | none => rfl
  | some v => cases v <;> rfl

/-- A null entry adds nothing to the texts of a list, and is not reported. -/
theorem entryTexts_null (items : List Json) :
    Bypass.entryTexts (.null :: items) = Bypass.entryTexts items := by
  rw [Bypass.entryTexts]
  apply Traced.ext
  case value => rfl
  case events => exact List.append_nil _
  case metrics => exact List.append_nil _

theorem entryTexts_withoutNulls (items : List Json) :
    Bypass.entryTexts (items.filter fun v => !v.isNull) = Bypass.entryTexts items := by
  induction items with
  | nil => rfl
  | cons v items ih =>
    by_cases null : v.isNull = true
    · obtain rfl : v = .null := by
        cases v <;> first | rfl | cases null
      rw [List.filter_cons_of_neg (by simp [Json.isNull]), ih, entryTexts_null]
    · rw [List.filter_cons_of_pos (by simpa using null), Bypass.entryTexts, Bypass.entryTexts, ih]

theorem ofJson_withoutNullItems (given : Option Json) :
    Bypass.Input.ofJson ((given.filter fun v => !v.isNull).map withoutNullItems) =
      Bypass.Input.ofJson given := by
  cases given with
  | none => rfl
  | some v =>
    cases v with
    | array items =>
      have texts := entryTexts_withoutNulls items
      exact congrArg (Bypass.Input.list <$> ·) texts
    | null | bool | number | string | object => rfl

/-! ## The nested object -/

theorem members?_rulesWithoutNulls (rules : Fields) :
    (lookup "singleProxy" (rulesWithoutNulls rules)).bind Json.members? =
      ((lookup "singleProxy" rules).bind Json.members?).map presentMembers := by
  have inner :
      (Json.members? ∘ onMembers presentMembers) = fun v => v.members?.map presentMembers :=
    funext (Json.members?_onMembers presentMembers)
  rw [rulesWithoutNulls, Json.lookup_mapMember, Json.lookup_mapMember_of_ne (by decide),
    Json.lookup_presentMembers, Option.bind_map, inner, bind_filter_of_null rfl, Option.map_bind]
  rfl

theorem readSingleProxy_rulesWithoutNulls (rules : Fields) :
    readSingleProxy (rulesWithoutNulls rules) = readSingleProxy rules := by
  rw [readSingleProxy, readSingleProxy, members?_rulesWithoutNulls]
  cases (lookup "singleProxy" rules).bind Json.members? with
  | none => rfl
  | some proxy =>
    show readEndpoint _ _ (lookup "host" (presentMembers proxy))
        (lookup "port" (presentMembers proxy)) =
      readEndpoint _ _ (lookup "host" proxy) (lookup "port" proxy)
    rw [Json.lookup_presentMembers, Json.lookup_presentMembers, readEndpoint, readHost_filter,
      readPort_filter]
    rfl

/-- The rules object is read from the nested object without nulls as it is without its own nulls. -/
theorem rules_settingsWithoutNulls (v : Json) :
    ((onMembers settingsWithoutNulls v).get? "rules").bind Json.members? =
      ((v.get? "rules").bind Json.members?).map rulesWithoutNulls := by
  have inner : (Json.members? ∘ onMembers rulesWithoutNulls) =
      fun v => v.members?.map rulesWithoutNulls :=
    funext (Json.members?_onMembers rulesWithoutNulls)
  cases v with
  | object settings =>
    show (lookup "rules" (settingsWithoutNulls settings)).bind Json.members? =
      ((lookup "rules" settings).bind Json.members?).map rulesWithoutNulls
    rw [settingsWithoutNulls, Json.lookup_mapMember, Json.lookup_presentMembers, Option.bind_map,
      inner, bind_filter_of_null rfl, Option.map_bind]
    rfl
  | null | bool | number | string | array => rfl

/-! ## The fields of the payload -/

section Fields

variable (fields : Fields)

/-- The fields that hold no parts of their own. -/
theorem lookup_fieldsWithoutNulls {key : String} (list : "bypassList" ≠ key)
    (nested : "proxySettings" ≠ key) :
    lookup key (fieldsWithoutNulls fields) = (lookup key fields).filter fun v => !v.isNull := by
  rw [fieldsWithoutNulls, Json.lookup_mapMember_of_ne nested, Json.lookup_mapMember_of_ne list,
    Json.lookup_presentMembers]

theorem present?_fieldsWithoutNulls {key : String} (list : "bypassList" ≠ key)
    (nested : "proxySettings" ≠ key) :
    present? (fieldsWithoutNulls fields) key = present? fields key := by
  rw [present?, present?, lookup_fieldsWithoutNulls fields list nested, Option.filter_filter]
  simp only [Bool.and_self]

theorem firstPresent?_fieldsWithoutNulls {keys : List String} (list : "bypassList" ∉ keys)
    (nested : "proxySettings" ∉ keys) :
    firstPresent? (fieldsWithoutNulls fields) keys = firstPresent? fields keys := by
  refine firstPresent?_congr_of_present? fun key mem => ?_
  refine present?_fieldsWithoutNulls fields ?_ ?_
  · rintro rfl
    exact list mem
  · rintro rfl
    exact nested mem

theorem readEnabled_fieldsWithoutNulls :
    readEnabled (fieldsWithoutNulls fields) = readEnabled fields := by
  rw [readEnabled, readEnabled, readMode, readMode,
    present?_fieldsWithoutNulls fields (by decide) (by decide),
    lookup_fieldsWithoutNulls fields (by decide) (by decide), bind_filter_of_null rfl]

theorem readFlag_fieldsWithoutNulls :
    readFlag (fieldsWithoutNulls fields) "useForHttps" = readFlag fields "useForHttps" := by
  rw [readFlag, readFlag, present?_fieldsWithoutNulls fields (by decide) (by decide)]

theorem readFlat_fieldsWithoutNulls : readFlat (fieldsWithoutNulls fields) = readFlat fields := by
  have http : readHttp (fieldsWithoutNulls fields) = readHttp fields := by
    rw [readHttp, readHttp, firstPresent?_fieldsWithoutNulls fields (by decide) (by decide),
      lookup_fieldsWithoutNulls fields (by decide) (by decide), readEndpoint, readPort_filter]
    rfl
  have https : readHttps (fieldsWithoutNulls fields) = readHttps fields := by
    funext shared
    rw [readHttps, readHttps, firstPresent?_fieldsWithoutNulls fields (by decide) (by decide),
      lookup_fieldsWithoutNulls fields (by decide) (by decide), readEndpoint, readPort_filter]
    rfl
  funext shared
  rw [readFlat, readFlat, http, https]

theorem activeRules?_fieldsWithoutNulls :
    activeRules? (fieldsWithoutNulls fields) = (activeRules? fields).map rulesWithoutNulls := by
  have nested : nestedRules? (fieldsWithoutNulls fields) =
      (nestedRules? fields).map rulesWithoutNulls := by
    rw [nestedRules?, nestedRules?, fieldsWithoutNulls, Json.lookup_mapMember,
      Json.lookup_mapMember_of_ne (by decide), Json.lookup_presentMembers, Option.bind_map,
      Option.bind_assoc, bind_filter_of_null rfl, Option.bind_assoc, Option.map_bind]
    exact congrArg _ (funext rules_settingsWithoutNulls)
  rw [activeRules?, activeRules?, nested,
    firstPresent?_fieldsWithoutNulls fields (by decide) (by decide)]
  split <;> rfl

def Endpoints.withoutNulls (e : Endpoints) : Endpoints :=
  { e with bypass := (e.bypass.filter fun v => !v.isNull).map withoutNullItems }

theorem readNested_rulesWithoutNulls (rules : Fields) :
    readNested (rulesWithoutNulls rules) = Endpoints.withoutNulls <$> readNested rules := by
  have list : lookup "bypassList" (rulesWithoutNulls rules) =
      ((lookup "bypassList" rules).filter fun v => !v.isNull).map withoutNullItems := by
    rw [rulesWithoutNulls, Json.lookup_mapMember_of_ne (by decide), Json.lookup_mapMember,
      Json.lookup_presentMembers]
  rw [readNested, readNested, readSingleProxy_rulesWithoutNulls, list]
  apply Traced.ext
  case value => rfl
  case events => rw [Traced.events_map]; rfl
  case metrics => rw [Traced.metrics_map]; rfl

theorem readEndpoints_fieldsWithoutNulls (shared : Bool) :
    readEndpoints (fieldsWithoutNulls fields) shared =
      Endpoints.withoutNulls <$> readEndpoints fields shared := by
  rw [readEndpoints, readEndpoints, activeRules?_fieldsWithoutNulls]
  cases activeRules? fields with
  | some rules => exact readNested_rulesWithoutNulls rules
  | none =>
    show readFlat (fieldsWithoutNulls fields) shared = _ <$> readFlat fields shared
    rw [readFlat_fieldsWithoutNulls]
    apply Traced.ext
    case value => rfl
    case events => rw [Traced.events_map]
    case metrics => rw [Traced.metrics_map]

theorem readBypass_fieldsWithoutNulls (e : Endpoints) :
    readBypass (fieldsWithoutNulls fields) e.withoutNulls.bypass = readBypass fields e.bypass := by
  have list : (present? (fieldsWithoutNulls fields) "bypassList").or e.withoutNulls.bypass =
      (((present? fields "bypassList").or e.bypass).filter fun v => !v.isNull).map
        withoutNullItems := by
    rw [present?, present?, fieldsWithoutNulls, Json.lookup_mapMember_of_ne (by decide),
      Json.lookup_mapMember, Json.lookup_presentMembers]
    cases lookup "bypassList" fields with
    | none => rfl
    | some v => cases v <;> rfl
  rw [readBypass, readBypass, list, ofJson_withoutNullItems]

end Fields

theorem hydrate_fieldsWithoutNulls (fields : Fields) :
    hydrate (.object (fieldsWithoutNulls fields)) = hydrate (.object fields) := by
  rw [hydrate, hydrate, hydrateFields, hydrateFields, readEnabled_fieldsWithoutNulls,
    readFlag_fieldsWithoutNulls]
  simp only [readEndpoints_fieldsWithoutNulls, Traced.bind_map, readBypass_fieldsWithoutNulls]
  rfl

/-- A payload without its nulls gives the same snapshot as with them, and the same reports on the
way. What is left out of an object that has each key once are its members with the value null. -/
theorem hydrate_withoutNulls :
    (∀ payload : Json, hydrate (withoutNulls payload) = hydrate payload) ∧
    (∀ members : Fields, (members.map Prod.fst).Nodup →
      presentMembers members = members.filter fun m => !m.2.isNull) := by
  refine ⟨?_, fun _ => Json.presentMembers_eq_filter⟩
  intro payload
  cases payload with
  | object fields => exact hydrate_fieldsWithoutNulls fields
  | null | bool | number | string | array => rfl

/-- Nulls on every level, with a list whose entries are reported. -/
example : withoutNulls (.object [
      ("bypassList", .null),
      ("httpProxy", .null),
      ("proxySettings", .object [
        ("mode", .null),
        ("rules", .object [
          ("bypassList", .array [.null, .string "a.com", .null]),
          ("singleProxy", .object [("host", .string "proxy.local"), ("port", .null)])])])]) =
    .object [
      ("proxySettings", .object [
        ("rules", .object [
          ("bypassList", .array [.string "a.com"]),
          ("singleProxy", .object [("host", .string "proxy.local")])])])] := by
  rfl

end Payload

end Egress
