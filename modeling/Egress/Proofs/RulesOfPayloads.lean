import Mathlib.Data.List.Basic
import Egress.Payload.Hydrate
import Egress.Proofs.Decision

/-!
# The rules of a payload

Of a payload only the bypass list decides about the rules. The texts of the rules are the canonical
forms of the built-in ones and of the given ones that are not empty; that each is there once makes
no difference to what they cover.
-/

namespace Egress

namespace Bypass

theorem mem_distinctFrom_iff {seen texts : List String} {t : String} :
    t ∈ distinctFrom seen texts ↔ t ∈ texts ∧ t ∉ seen := by
  induction texts generalizing seen with
  | nil => simp [distinctFrom]
  | cons s texts ih =>
    by_cases old : s ∈ seen
    · rw [distinctFrom, if_pos (List.contains_iff_mem.mpr old), ih, List.mem_cons]
      constructor
      · rintro ⟨mem, new⟩
        exact ⟨Or.inr mem, new⟩
      · rintro ⟨rfl | mem, new⟩
        · exact absurd old new
        · exact ⟨mem, new⟩
    · rw [distinctFrom, if_neg (by simpa using old), List.mem_cons, ih, List.mem_cons,
        List.mem_cons, not_or]
      constructor
      · rintro (rfl | ⟨mem, _, new⟩)
        · exact ⟨Or.inl rfl, old⟩
        · exact ⟨Or.inr mem, new⟩
      · rintro ⟨rfl | mem, new⟩
        · exact Or.inl rfl
        · by_cases same : t = s
          · exact Or.inl same
          · exact Or.inr ⟨mem, same, new⟩

/-- The texts of the rules are the canonical forms that are not empty. -/
theorem mem_normalize_iff {input : Input} {t : String} :
    t ∈ normalize input ↔ t ≠ "" ∧ ∃ token ∈ defaults ++ input.tokens, canonical token = t := by
  rw [normalize, mem_distinctFrom_iff]
  simp only [List.mem_filter, List.mem_map, List.not_mem_nil, not_false_eq_true, and_true,
    Bool.not_eq_true', String.isEmpty_eq_false_iff]
  exact and_comm

theorem rulesOf_value (input : Input) :
    (rulesOf input).value = (normalize input).map Rule.ofText := by
  rw [rulesOf, compileAll]
  induction normalize input with
  | nil => rfl
  | cons t texts ih =>
    rw [List.map_cons, List.map_cons, ← ih, ← Rule.compile_value t]
    rfl

/-- The built-in rules are in canonical form. -/
theorem canonical_default : ∀ t ∈ defaults, canonical t = t := by
  decide +kernel

theorem default_mem_rulesOf (input : Input) {t : String} (builtIn : t ∈ defaults) :
    Rule.ofText t ∈ (rulesOf input).value := by
  have some : ∀ t ∈ defaults, t ≠ "" := by decide
  rw [rulesOf_value]
  apply List.mem_map_of_mem
  rw [mem_normalize_iff]
  exact ⟨some t builtIn, t, List.mem_append_left _ builtIn, canonical_default t builtIn⟩

end Bypass

namespace Payload

def listInput : Json → Bypass.Input
  | .object fields =>
    (Bypass.Input.ofJson ((present? fields "bypassList").or
      (readEndpoints fields (readFlag fields "useForHttps").value).value.bypass)).value
  | _ => .absent

theorem bypass_hydrate (payload : Json) :
    (hydrate payload).value.bypass = (Bypass.rulesOf (listInput payload)).value := by
  cases payload <;> rfl

end Payload

/-- A rule in force that covers the host of a URL bypasses it, and sends it the direct way. -/
theorem Config.direct_of_covers {c : Config} {url : String} {u : Url} {h : Host}
    (read : Url.parse url = .ok u) (host : u.host = some h) {r : Bypass.Rule}
    (inForce : r ∈ c.bypass) (covers : r.covers (.ofHost h.text) = true) :
    c.isBypassed url = true ∧ (c.route url).value = .direct := by
  have bypassed : c.isBypassed url = true := by
    rw [isBypassed_iff]
    exact ⟨u, h, read, host, (Bypass.anyMatch_iff _ _).mpr ⟨r, inForce, covers⟩⟩
  exact ⟨bypassed, (c.route_exit url).direct_of_isBypassed bypassed⟩

end Egress
