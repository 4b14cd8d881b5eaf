import Egress.Proofs.NameRules
import Egress.Proofs.Reached
import Egress.Proofs.RulesOfPayloads
import Egress.Proofs.SlashRules
import Egress.Proofs.VisibleTexts

/-!
# Hosts that are never proxied

The own machine, two blocks of addresses and one domain are bypassed by the built-in rules. Every
payload leaves these rules in force, whatever it is, so every snapshot that a session comes to has
them as long as the session begins with a payload: snapshots are stamped and copied, but their rules
are never touched.
-/

namespace Egress

/-- The addresses of the built-in blocks, `127.0.0.0/8` and `192.168.1.0/24`. -/
def Ipv4.IsBuiltIn (v : Nat) : Prop :=
  (0x7F000000 ≤ v ∧ v < 0x80000000) ∨ (0xC0A80100 ≤ v ∧ v < 0xC0A80200)

/-- The hosts that no payload can have proxied. The letter case of a name does not count, and
outside of the schemes that name servers an address may be written as a name. -/
inductive Host.IsBuiltIn : Host → Prop where
  | localhost {name : String} (lower : Text.lowercase name = "localhost") :
      IsBuiltIn (.domain name)
  | loopback : IsBuiltIn (.ipv6 ⟨[0, 0, 0, 0, 0, 0, 0, 1]⟩)
  | address {a : Ipv4} (inside : Ipv4.IsBuiltIn a.toNat) : IsBuiltIn (.ipv4 a)
  | quad {name : String} {v : Nat} (written : Ipv4.IsQuad (Text.lowercase name).toList v)
      (inside : Ipv4.IsBuiltIn v) : IsBuiltIn (.domain name)
  | domain {name : String} (lower : Text.lowercase name = "net.nz") : IsBuiltIn (.domain name)
  | subdomain {name sub : String} (lower : Text.lowercase name = sub ++ ".net.nz") :
      IsBuiltIn (.domain name)

namespace Bypass

/-- A built-in block covers its addresses, however the host writes them. -/
theorem exists_block_covers {host : String} {v : Nat}
    (written : Ipv4.IsQuad (Text.lowercase host).toList v) (inside : Ipv4.IsBuiltIn v) :
    ∃ t ∈ defaults, (Rule.ofText t).covers (.ofHost host) = true := by
  rcases inside with ⟨low, high⟩ | ⟨low, high⟩
  · refine ⟨"127.0.0.0/8", by decide, ?_⟩
    have slashed : '/' ∈ "127.0.0.0/8".toList := by decide
    have block : Block.IsText "127.0.0.0/8".toList 0x7F000000 8 :=
      (Block.parse_eq_ok_iff slashed ⟨.ofNat 0x7F000000, 8⟩).mp rfl
    rw [covers_slashed_iff_text slashed]
    exact ⟨0x7F000000, 8, v, block, written, low, high⟩
  · refine ⟨"192.168.1.0/24", by decide, ?_⟩
    have slashed : '/' ∈ "192.168.1.0/24".toList := by decide
    have block : Block.IsText "192.168.1.0/24".toList 0xC0A80100 24 :=
      (Block.parse_eq_ok_iff slashed ⟨.ofNat 0xC0A80100, 24⟩).mp rfl
    rw [covers_slashed_iff_text slashed]
    exact ⟨0xC0A80100, 24, v, block, written, low, high⟩

theorem covers_netNz {host : String}
    (below : Text.lowercase host = "net.nz" ∨ ∃ sub, Text.lowercase host = sub ++ "." ++ "net.nz") :
    (Rule.ofText "net.nz").covers (.ofHost host) = true := by
  rw [covers_bare_iff (by decide) (by decide) (plain_of_head (by decide))]
  exact below

/-- Each of the hosts is covered by a built-in rule. -/
theorem exists_default_covers {h : Host} (builtIn : h.IsBuiltIn) :
    ∃ t ∈ defaults, (Rule.ofText t).covers (.ofHost h.text) = true := by
  cases builtIn with
  | @localhost name lower =>
    refine ⟨"localhost", by decide, (covers_own_iff (by decide) _).mpr ?_⟩
    rw [Destination.ofHost, Host.text, lower]
    decide
  | loopback => exact ⟨"::1", by decide, (covers_own_iff (by decide) _).mpr (by decide)⟩
  | @address a inside =>
    apply exists_block_covers _ inside
    rw [Host.text, a.lowercase_text, Ipv4.text, String.toList_ofList]
    exact a.isQuad_quad
  | quad written inside => exact exists_block_covers written inside
  | domain lower => exact ⟨"net.nz", by decide, covers_netNz (Or.inl lower)⟩
  | @subdomain name sub lower =>
    refine ⟨"net.nz", by decide, covers_netNz (Or.inr ⟨sub, ?_⟩)⟩
    rw [Host.text, lower, String.append_assoc]
    rfl

end Bypass

def Config.HasBuiltIns (c : Config) : Prop :=
  ∀ t ∈ Bypass.defaults, Bypass.Rule.ofText t ∈ c.bypass

theorem Payload.hasBuiltIns_hydrate (payload : Json) :
    (hydrate payload).value.HasBuiltIns := by
  intro t builtIn
  rw [bypass_hydrate]
  exact Bypass.default_mem_rulesOf _ builtIn

theorem Config.builtIns_lasting : Config.IsLasting Config.HasBuiltIns where
  hydrated := Payload.hasBuiltIns_hydrate
  stamped _ _ has := has

theorem Config.HasBuiltIns.direct {c : Config} (has : c.HasBuiltIns) {url : String} {u : Url}
    {h : Host} (read : Url.parse url = .ok u) (host : u.host = some h) (builtIn : h.IsBuiltIn) :
    c.isBypassed url = true ∧ (c.route url).value = .direct := by
  obtain ⟨t, isDefault, covers⟩ := Bypass.exists_default_covers builtIn
  exact direct_of_covers read host (has t isDefault) covers

namespace Session

/-- The live snapshot and all held ones have the built-in rules. -/
structure HasBuiltIns (s : Session) : Prop where
  live : s.live.current.HasBuiltIns
  held : ∀ c ∈ s.held, c.HasBuiltIns

theorem HasBuiltIns.run {s : Session} (has : s.HasBuiltIns) (rs : List Request) :
    (s.run rs).value.1.HasBuiltIns := by
  have throughout := Throughout.run Config.builtIns_lasting ⟨has.live, has.held⟩ rs
  exact ⟨throughout.live, throughout.held⟩

theorem hasBuiltIns_ofOrigin {o : Live.Origin} (hydrated : o.IsHydrated) :
    (ofOrigin o).value.HasBuiltIns := by
  have throughout := throughout_ofOrigin Config.builtIns_lasting hydrated
  exact ⟨throughout.live, throughout.held⟩

/-- The built-in bypasses cannot be switched off. Whatever payload a snapshot is made of, and
whatever a session that begins with a payload is asked, in its live snapshot and in every held one
the own machine, the addresses of the two blocks, and `net.nz` with all below it are bypassed and
direct. -/
theorem builtIn_always_direct {url : String} {u : Url} {h : Host}
    (read : Url.parse url = .ok u) (host : u.host = some h) (builtIn : h.IsBuiltIn) :
    (∀ payload : Json, (Payload.hydrate payload).value.isBypassed url = true ∧
      ((Payload.hydrate payload).value.route url).value = .direct) ∧
    (∀ o : Live.Origin, o.IsHydrated → ∀ rs : List Request, ∀ c,
      c = (history o rs).value.1.live.current ∨ c ∈ (history o rs).value.1.held →
        c.isBypassed url = true ∧ (c.route url).value = .direct) := by
  constructor
  · intro payload
    exact (Payload.hasBuiltIns_hydrate payload).direct read host builtIn
  · intro o hydrated rs c reached
    have has := (hasBuiltIns_ofOrigin hydrated).run rs
    rcases reached with rfl | held
    · exact has.live.direct read host builtIn
    · exact (has.held c held).direct read host builtIn

/-- A payload that has requests proxied does not have this one proxied, and a list in the place of a
payload does not either. -/
theorem builtIn_always_direct_subdomain :
    Url.parse "https://WWW.Govt.net.nz/" = .ok ⟨"https", some (.domain "www.govt.net.nz")⟩ ∧
      (Host.domain "www.govt.net.nz").IsBuiltIn ∧
      (Payload.hydrate (.object [
        ("bypassList", .string "*.example"),
        ("mode", .string "manual"),
        ("httpProxy", .string "proxy.example"),
        ("httpPort", Json.ofNat 8080),
        ("useForHttps", .bool true)])).value.isBypassed "https://WWW.Govt.net.nz/" = true ∧
      ((history (.payload .null) [.apply (.array []), .reload .vacant]).value.1.live.current.route
        "https://WWW.Govt.net.nz/").value = .direct := by
  have read : Url.parse "https://WWW.Govt.net.nz/" =
      .ok ⟨"https", some (.domain "www.govt.net.nz")⟩ := by decide +kernel
  have builtIn : (Host.domain "www.govt.net.nz").IsBuiltIn :=
    .subdomain (show Text.lowercase "www.govt.net.nz" = "www.govt" ++ ".net.nz" by decide +kernel)
  have always := builtIn_always_direct read rfl builtIn
  exact ⟨read, builtIn, (always.1 _).1, (always.2 (.payload .null) trivial _ _ (Or.inl rfl)).2⟩

end Session

end Egress
