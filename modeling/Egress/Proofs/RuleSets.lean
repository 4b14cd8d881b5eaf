import Egress.Proofs.FieldFrames
import Egress.Proofs.RulesOfPayloads
import Egress.Proofs.TwoDecisions

/-!
# The bypass list as a set

Of the texts in a bypass list only the set of their canonical forms counts: neither order nor
repetition nor spelling has an influence on a decision, though the scan over the rules stops at the
first that covers the host. More texts bypass more hosts and change no decision otherwise.
-/

namespace Egress

namespace Bypass

variable {a b : List String}

def canonicalForms (texts : List String) : List String :=
  texts.map canonical

/-- Where all canonical forms are among those of another list, the rules are among the other
rules. -/
theorem rulesOf_list_subset (sub : canonicalForms a ⊆ canonicalForms b) :
    (rulesOf (.list a)).value ⊆ (rulesOf (.list b)).value := by
  rw [rulesOf_value, rulesOf_value]
  apply List.map_subset
  intro t mem
  obtain ⟨some, token, given, form⟩ := mem_normalize_iff.mp mem
  refine mem_normalize_iff.mpr ⟨some, ?_⟩
  rcases List.mem_append.mp given with builtIn | listed
  · exact ⟨token, List.mem_append_left _ builtIn, form⟩
  · have inB : canonical token ∈ canonicalForms b := sub (List.mem_map_of_mem listed)
    obtain ⟨token', listed', same⟩ := List.mem_map.mp inB
    exact ⟨token', List.mem_append_right _ listed', same.trans form⟩

theorem anyMatch_mono {rules rules' : List Rule} (sub : rules ⊆ rules') (d : Destination)
    (covered : anyMatch rules d = true) : anyMatch rules' d = true := by
  obtain ⟨r, mem, covers⟩ := (anyMatch_iff rules d).mp covered
  exact (anyMatch_iff rules' d).mpr ⟨r, sub mem, covers⟩

theorem value_entryTexts_strings (texts : List String) :
    (entryTexts (texts.map .string)).value = texts := by
  induction texts with
  | nil => rfl
  | cons t texts ih =>
    change [t] ++ (entryTexts (texts.map .string)).value = t :: texts
    rw [ih]
    rfl

end Bypass

namespace Payload

variable {fields fields' : Fields} {a b : List String}

/-- The payload has a list of texts as its bypass list. -/
def Lists (fields : Fields) (texts : List String) : Prop :=
  Json.lookup "bypassList" fields = some (.array (texts.map .string))

theorem Lists.bypass_eq (lists : Lists fields a) :
    (snapshotOf fields).bypass = (Bypass.rulesOf (.list a)).value := by
  have input : listInput (.object fields) = .list a := by
    have given : present? fields "bypassList" = some (.array (a.map .string)) := by
      rw [present?, lists]
      rfl
    rw [listInput, given]
    exact congrArg Bypass.Input.list (Bypass.value_entryTexts_strings a)
  rw [← input]
  exact bypass_hydrate (.object fields)

/-- Payloads that differ in their bypass lists only are decided alike, the rules apart. -/
theorem alike_of_lists (differ : DifferOnlyIn ["bypassList"] fields fields') (url : String) :
    Config.Alike (snapshotOf fields) (snapshotOf fields') url url := by
  rw [snapshotOf_of_bypass_changed differ]
  exact Config.alike_of_rules _ _ url

theorem anyMatch_of_lists (lists : Lists fields a) (lists' : Lists fields' b)
    (sub : ∀ t ∈ Bypass.canonicalForms a, t ∈ Bypass.canonicalForms b) (d : Bypass.Destination)
    (covered : Bypass.anyMatch (snapshotOf fields).bypass d = true) :
    Bypass.anyMatch (snapshotOf fields').bypass d = true := by
  rw [lists.bypass_eq] at covered
  rw [lists'.bypass_eq]
  exact Bypass.anyMatch_mono (Bypass.rulesOf_list_subset sub) d covered

end Payload

/-- Payloads that differ in their bypass lists only: the same canonical forms give the same
decisions, and more of them can only make a decision direct. -/
theorem bypass_list_as_set {fields fields' : Payload.Fields} {a b : List String}
    (lists : Payload.Lists fields a) (lists' : Payload.Lists fields' b)
    (differ : Payload.DifferOnlyIn ["bypassList"] fields fields') (url : String) :
    ((∀ t, t ∈ Bypass.canonicalForms a ↔ t ∈ Bypass.canonicalForms b) →
      ((Payload.snapshotOf fields').decide url).value =
        ((Payload.snapshotOf fields).decide url).value) ∧
    ((∀ t ∈ Bypass.canonicalForms a, t ∈ Bypass.canonicalForms b) →
      (((Payload.snapshotOf fields').decide url).value =
          ((Payload.snapshotOf fields).decide url).value ∨
        ((Payload.snapshotOf fields').decide url).value = (.direct, .bypassed)) ∧
      ∀ ts, ((Payload.snapshotOf fields').route url).value = .proxy ts →
        ((Payload.snapshotOf fields).route url).value = .proxy ts) := by
  have alike := Payload.alike_of_lists differ url
  constructor
  · intro same
    apply Config.decide_congr alike
    intro d
    have more := Payload.anyMatch_of_lists lists lists' (fun t => (same t).mp) d
    have less := Payload.anyMatch_of_lists lists' lists (fun t => (same t).mpr) d
    exact Bool.eq_iff_iff.mpr ⟨more, less⟩
  · intro sub
    have decided := Config.decide_of_more alike (Payload.anyMatch_of_lists lists lists' sub)
    refine ⟨decided, ?_⟩
    intro ts proxied
    rcases decided with equal | bypassed
    · rw [Config.route_value, ← equal]
      exact proxied
    · rw [Config.route_value, bypassed] at proxied
      cases proxied

def Payload.listing (texts : List String) : Payload.Fields :=
  Json.insertMember "bypassList" (.array (texts.map .string)) Payload.bothFields

theorem Payload.lists_listing (texts : List String) : Lists (listing texts) texts :=
  Json.lookup_insertMember _ _ _

theorem Payload.differOnlyIn_listing (a b : List String) :
    DifferOnlyIn ["bypassList"] (listing a) (listing b) := by
  intro key apart
  have before :=
    differOnlyIn_insertMember "bypassList" (.array (a.map .string)) bothFields key apart
  have after :=
    differOnlyIn_insertMember "bypassList" (.array (b.map .string)) bothFields key apart
  exact before.symm.trans after

/-- A host that is not listed, and then is, in two spellings of the list. -/
theorem bypass_list_as_set_spelled :
    Bypass.canonicalForms ["Shop.test."] = ["shop.test"] ∧
      Bypass.canonicalForms ["Shop.test.", ".other.test"] = ["shop.test", "other.test"] ∧
      Bypass.canonicalForms ["other.test", " shop.TEST ", "other.test"] =
        ["other.test", "shop.test", "other.test"] ∧
      ((Payload.snapshotOf (Payload.listing ["Shop.test."])).decide "http://other.test/").value =
        (.proxy [⟨"proxy.local", 8080⟩], .proxied) ∧
      ((Payload.snapshotOf (Payload.listing ["Shop.test.", ".other.test"])).decide
        "http://other.test/").value = (.direct, .bypassed) ∧
      ((Payload.snapshotOf (Payload.listing ["other.test", " shop.TEST ", "other.test"])).decide
        "http://other.test/").value = (.direct, .bypassed) := by
  have one : Bypass.canonicalForms ["Shop.test."] = ["shop.test"] := by decide +kernel
  have two : Bypass.canonicalForms ["Shop.test.", ".other.test"] = ["shop.test", "other.test"] := by
    decide +kernel
  have respelled : Bypass.canonicalForms ["other.test", " shop.TEST ", "other.test"] =
      ["other.test", "shop.test", "other.test"] := by
    decide +kernel
  have proxied : ((Payload.snapshotOf (Payload.listing ["Shop.test."])).decide
      "http://other.test/").value = (.proxy [⟨"proxy.local", 8080⟩], .proxied) := by
    decide +kernel
  have covered : ((Payload.snapshotOf (Payload.listing ["Shop.test.", ".other.test"])).decide
      "http://other.test/").value ≠ (.proxy [⟨"proxy.local", 8080⟩], .proxied) := by
    decide +kernel
  have bypassed : ((Payload.snapshotOf (Payload.listing ["Shop.test.", ".other.test"])).decide
      "http://other.test/").value = (.direct, .bypassed) := by
    have sub : ∀ t ∈ Bypass.canonicalForms ["Shop.test."],
        t ∈ Bypass.canonicalForms ["Shop.test.", ".other.test"] := by
      rw [one, two]
      decide
    have decided := ((bypass_list_as_set (Payload.lists_listing _) (Payload.lists_listing _)
      (Payload.differOnlyIn_listing _ _) "http://other.test/").2 sub).1
    rw [proxied] at decided
    exact decided.resolve_left covered
  refine ⟨one, two, respelled, proxied, bypassed, ?_⟩
  have same : ∀ t, t ∈ Bypass.canonicalForms ["Shop.test.", ".other.test"] ↔
      t ∈ Bypass.canonicalForms ["other.test", " shop.TEST ", "other.test"] := by
    intro t
    rw [two, respelled]
    simp only [List.mem_cons, List.not_mem_nil, or_false]
    constructor
    · rintro (shop | other)
      · exact Or.inr (Or.inl shop)
      · exact Or.inl other
    · rintro (other | shop | other)
      · exact Or.inr other
      · exact Or.inl shop
      · exact Or.inr other
  exact ((bypass_list_as_set (Payload.lists_listing _) (Payload.lists_listing _)
    (Payload.differOnlyIn_listing _ _) "http://other.test/").1 same).trans bypassed

end Egress
