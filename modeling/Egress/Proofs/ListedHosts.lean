import Egress.Proofs.HostTexts
import Egress.Proofs.Members
import Egress.Proofs.NameRules
import Egress.Proofs.RulesOfPayloads

/-!
# Hosts that are listed

A host that is put into the bypass list just as the rules see it is bypassed, with two exceptions
that come from the canonical form of rules. It has no dot at its end, so a rule cannot name a host
that ends in one. It has no dots in front either; what they hide may be a name of the own machine,
and such a rule stands for these names alone.
-/

namespace Egress

namespace Bypass

theorem entryTexts_append_string (items : List Json) (s : String) :
    (entryTexts (items ++ [.string s])).value = (entryTexts items).value ++ [s] := by
  induction items with
  | nil => rfl
  | cons v items ih =>
    rw [List.cons_append, entryTexts, entryTexts]
    simp only [Traced.value_bind, Traced.value_pure, ih, List.append_assoc]

/-- A name covers itself and what dots in front make of it, unless it is a name of the own machine
and there are such dots. -/
theorem covers_dotted {name : String} {n : Nat} (unslashed : '/' ∉ name.toList)
    (proper : name ∈ ownNames → n = 0) {d : Destination}
    (host : d.host = String.ofList (List.replicate n '.') ++ name) :
    (Rule.ofText name).covers d = true := by
  by_cases own : name ∈ ownNames
  · have itself : d.host = name := by
      rw [host, proper own]
      exact String.empty_append
    rw [covers_own_iff own, itself]
    exact own
  · by_cases wild : ∃ domain, name = "*." ++ domain
    · obtain ⟨domain, rfl⟩ := wild
      rw [covers_wildcard_iff (by simpa using unslashed)]
      refine ⟨String.ofList (List.replicate n '.') ++ "*", ?_⟩
      rw [host, String.append_assoc, String.append_assoc]
      rfl
    · rw [covers_bare_iff own unslashed fun domain same => wild ⟨domain, same⟩]
      cases n with
      | zero =>
        left
        rw [host]
        exact String.empty_append
      | succ m =>
        right
        refine ⟨String.ofList (List.replicate m '.'), ?_⟩
        rw [host, List.replicate_succ', String.ofList_append]

end Bypass

namespace Payload

/-- The payload with a text more at the end of its bypass list, if it has one. -/
def withListed (fields : Fields) (s : String) : Json :=
  match Json.lookup "bypassList" fields with
  | some (.array items) =>
    .object (Json.insertMember "bypassList" (.array (items ++ [.string s])) fields)
  | _ => .object fields

/-- A text more in the bypass list is a rule more. -/
theorem mem_bypass_withListed {fields : Fields} {items : List Json} {s : String}
    (list : Json.lookup "bypassList" fields = some (.array items))
    (some : Bypass.canonical s ≠ "") :
    Bypass.Rule.ofText (Bypass.canonical s) ∈ (hydrate (withListed fields s)).value.bypass := by
  have input : listInput (withListed fields s) =
      .list ((Bypass.entryTexts items).value ++ [s]) := by
    simp only [withListed, list, listInput, present?, Json.lookup_insertMember, Option.filter_some,
      Json.isNull, Bypass.Input.ofJson]
    rw [← Bypass.entryTexts_append_string]
    rfl
  rw [bypass_hydrate, input, Bypass.rulesOf_value]
  apply List.mem_map_of_mem
  rw [Bypass.mem_normalize_iff]
  exact ⟨some, s, by simp [Bypass.Input.tokens], rfl⟩

end Payload

theorem exists_url_of_destinationOf {url : String} {d : Bypass.Destination}
    (found : destinationOf? url = some d) :
    ∃ u h, Url.parse url = .ok u ∧ u.host = some h ∧ d = .ofHost h.text := by
  unfold destinationOf? at found
  split at found
  · next u read =>
    obtain ⟨h, host, rfl⟩ := Option.map_eq_some_iff.mp found
    exact ⟨u, h, read, host, rfl⟩
  · cases found

/-- The host that the rules see is visible and in lower case. -/
theorem isVisible_ofHost {h : Host} (visible : h.IsVisible) :
    (∀ c ∈ (Bypass.Destination.ofHost h.text).host.toList, Text.IsVisible c) ∧
      Text.lowercaseChars (Bypass.Destination.ofHost h.text).host.toList =
        (Bypass.Destination.ofHost h.text).host.toList := by
  have lower : (Bypass.Destination.ofHost h.text).host.toList =
      Text.lowercaseChars h.text.toList := String.toList_ofList
  rw [lower]
  exact Text.lowercaseChars_of_visible visible

/-- Dots in front, and a rest that is not empty unless the text ends in a dot. -/
theorem exists_dots_append {cs : List Char} (nonempty : cs ≠ [])
    (undotted : cs.getLast? ≠ some '.') :
    ∃ n, cs = List.replicate n '.' ++ cs.dropWhile (· == '.') ∧ cs.dropWhile (· == '.') ≠ [] := by
  have dots : cs.takeWhile (· == '.') = List.replicate (cs.takeWhile (· == '.')).length '.' := by
    rw [List.eq_replicate_iff]
    refine ⟨rfl, ?_⟩
    intro c mem
    simpa using List.mem_takeWhile_imp mem
  have split : cs = List.replicate (cs.takeWhile (· == '.')).length '.' ++
      cs.dropWhile (· == '.') := by
    rw [← dots, List.takeWhile_append_dropWhile]
  refine ⟨_, split, ?_⟩
  intro empty
  rw [empty, List.append_nil] at split
  apply undotted
  rw [split, List.getLast?_replicate, if_neg]
  intro zero
  rw [zero] at split
  exact nonempty split

/-- A host listed as the rules see it is bypassed and direct, whatever else the payload says, unless
it ends in a dot or is a name of the own machine behind dots. -/
theorem listed_host_direct {fields : Payload.Fields} {items : List Json} {url : String}
    {d : Bypass.Destination} (list : Json.lookup "bypassList" fields = some (.array items))
    (found : destinationOf? url = some d) (named : d.host ≠ "")
    (undotted : d.host.toList.getLast? ≠ some '.')
    (proper : ∀ n, 0 < n → ∀ own ∈ Bypass.ownNames,
      d.host ≠ String.ofList (List.replicate n '.') ++ own) :
    (Payload.hydrate (Payload.withListed fields d.host)).value.isBypassed url = true ∧
      ((Payload.hydrate (Payload.withListed fields d.host)).value.route url).value = .direct := by
  obtain ⟨u, h, read, host, same⟩ := exists_url_of_destinationOf found
  obtain ⟨visible, lower⟩ := isVisible_ofHost (Url.isVisible_of_parse read host)
  rw [← same] at visible lower
  have nonempty : d.host.toList ≠ [] := by
    rwa [ne_eq, String.toList_eq_nil_iff]
  obtain ⟨n, split, rest⟩ := exists_dots_append nonempty undotted
  have canonical : Bypass.canonical d.host =
      String.ofList (d.host.toList.dropWhile (· == '.')) := by
    rw [Bypass.canonical, Bypass.canonicalChars_of_visible visible lower undotted]
  generalize d.host.toList.dropWhile (· == '.') = name at split rest canonical
  have dotted : d.host = String.ofList (List.replicate n '.') ++ String.ofList name := by
    rw [← String.ofList_append, ← split, String.ofList_toList]
  have inForce : Bypass.Rule.ofText (String.ofList name) ∈
      (Payload.hydrate (Payload.withListed fields d.host)).value.bypass := by
    rw [← canonical]
    apply Payload.mem_bypass_withListed list
    rw [canonical]
    simpa using rest
  apply Config.direct_of_covers read host inForce
  rw [← same]
  apply Bypass.covers_dotted _ _ dotted
  · rw [String.toList_ofList]
    intro slash
    have inside : '/' ∈ d.host.toList := by
      rw [split]
      exact List.mem_append_right _ slash
    exact (visible '/' inside).2.2 rfl
  · intro own
    by_contra some
    exact proper n (Nat.pos_of_ne_zero some) _ own dotted

def Payload.proxyingFields (items : List Json) : Fields := [
  ("bypassList", .array items),
  ("httpPort", Json.ofNat 8080),
  ("httpProxy", .string "proxy.local"),
  ("proxyEnabled", .bool true)]

/-- An address is listed without its brackets and in lower case. -/
theorem listed_host_direct_address :
    destinationOf? "http://[2001:DB8::1]/" = some ⟨"2001:db8::1", none⟩ ∧
      ((Payload.hydrate
        (Payload.withListed (Payload.proxyingFields [.null]) "2001:db8::1")).value.route
          "http://[2001:DB8::1]/").value = .direct := by
  have found : destinationOf? "http://[2001:DB8::1]/" = some ⟨"2001:db8::1", none⟩ := by
    decide +kernel
  have proper : ∀ n, 0 < n → ∀ own ∈ Bypass.ownNames,
      "2001:db8::1" ≠ String.ofList (List.replicate n '.') ++ own := by
    intro n pos own _ same
    obtain ⟨m, rfl⟩ := Nat.exists_eq_add_of_le' pos
    have heads := congrArg (fun s => s.toList.head?) same
    simp [List.replicate_succ] at heads
  exact ⟨found, (listed_host_direct rfl found (by decide) (by decide) proper).2⟩

/-- Two hosts that are listed and proxied all the same. -/
theorem listed_host_proxied :
    Json.lookup "bypassList" (Payload.proxyingFields []) = some (.array []) ∧
    (destinationOf? "git://.localhost/" = some ⟨".localhost", none⟩ ∧
      (Payload.hydrate
        (Payload.withListed (Payload.proxyingFields []) ".localhost")).value.isBypassed
          "git://.localhost/" = false ∧
      ((Payload.hydrate (Payload.withListed (Payload.proxyingFields []) ".localhost")).value.route
        "git://.localhost/").value = .proxy [⟨"proxy.local", 8080⟩]) ∧
    (destinationOf? "http://example.com./" = some ⟨"example.com.", none⟩ ∧
      (Payload.hydrate
        (Payload.withListed (Payload.proxyingFields []) "example.com.")).value.isBypassed
          "http://example.com./" = false ∧
      ((Payload.hydrate (Payload.withListed (Payload.proxyingFields []) "example.com.")).value.route
        "http://example.com./").value = .proxy [⟨"proxy.local", 8080⟩]) := by
  refine ⟨rfl, ⟨?_, ?_, ?_⟩, ?_, ?_, ?_⟩
  all_goals decide +kernel

end Egress
