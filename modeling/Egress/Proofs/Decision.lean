import Egress.Route

/-!
# The exits of a decision

A decision has six exits, and each one is reached under a condition of its own on the snapshot and
the URL. What a verdict needs, what is counted for it and what the rules alone say about a URL are
all read off the exits, so that only one proof looks into the decision itself.

Nothing is assumed about how the text of a URL is read.
-/

namespace Egress

theorem Bypass.anyMatch_iff (rules : List Bypass.Rule) (d : Bypass.Destination) :
    Bypass.anyMatch rules d = true ↔ ∃ r ∈ rules, r.covers d = true := by
  simp [Bypass.anyMatch, Bypass.firstMatch]

theorem Bypass.anyMatch_eq_false_iff (rules : List Bypass.Rule) (d : Bypass.Destination) :
    Bypass.anyMatch rules d = false ↔ ∀ r ∈ rules, r.covers d = false := by
  rw [Bool.eq_false_iff, ne_eq, Bypass.anyMatch_iff]
  simp

namespace Config

/-- Everything that speaks for the proxy: proxying is on, the text is a URL with a host that no rule
covers, and the endpoint is the one for its scheme, which for `https` may be that for `http`. -/
def ProxiedThrough (c : Config) (url : String) (e : Endpoint) : Prop :=
  c.enabled = true ∧ ∃ u h, Url.parse url = .ok u ∧ u.host = some h ∧
    (∀ r ∈ c.bypass, r.covers (.ofHost h.text) = false) ∧
    (if u.scheme = "https" ∧ c.useHttpForHttps = false then c.https else c.http) = some e

/-- The ways out of a decision, with the verdict and the reason that each of them leaves. -/
inductive Exit (c : Config) (url : String) : Verdict → Reason → Prop where
  | disabled (off : c.enabled = false) : Exit c url .direct .disabled
  | invalidUrl {e : UrlError} (on : c.enabled = true) (refused : Url.parse url = .error e) :
      Exit c url .direct .invalidUrl
  | noHost {u : Url} (on : c.enabled = true) (read : Url.parse url = .ok u)
      (hostless : u.host = none) : Exit c url .direct .noHost
  | bypassed {u : Url} {h : Host} (on : c.enabled = true) (read : Url.parse url = .ok u)
      (host : u.host = some h) (covered : Bypass.anyMatch c.bypass (.ofHost h.text) = true) :
      Exit c url .direct .bypassed
  | noEndpoint {u : Url} {h : Host} (on : c.enabled = true) (read : Url.parse url = .ok u)
      (host : u.host = some h) (uncovered : Bypass.anyMatch c.bypass (.ofHost h.text) = false)
      (missing : c.endpointFor u.scheme = none) : Exit c url .direct .noEndpoint
  | proxied {u : Url} {h : Host} {e : Endpoint} (on : c.enabled = true)
      (read : Url.parse url = .ok u) (host : u.host = some h)
      (uncovered : Bypass.anyMatch c.bypass (.ofHost h.text) = false)
      (found : c.endpointFor u.scheme = some e) : Exit c url (.proxy [e]) .proxied

theorem endpointFor_eq (c : Config) (scheme : String) :
    c.endpointFor scheme =
      if scheme = "https" ∧ c.useHttpForHttps = false then c.https else c.http := by
  by_cases h : scheme = "https"
  · cases shared : c.useHttpForHttps <;> simp [endpointFor, httpsEndpoint, h, shared]
  · simp [endpointFor, h]

/-- Every decision leaves by one of the exits. -/
theorem decide_exit (c : Config) (url : String) :
    Exit c url (c.decide url).value.1 (c.decide url).value.2 := by
  cases on : c.enabled with
  | false =>
    simp only [decide, on]
    exact .disabled on
  | true =>
    simp only [decide, on, if_true]
    cases read : Url.parse url with
    | error e => exact .invalidUrl on read
    | ok u =>
      cases host : u.host with
      | none =>
        simp only [Url.destination?, host]
        exact .noHost on read host
      | some h =>
        simp only [Url.destination?, host, Option.map_some, decideHost]
        cases covered : Bypass.anyMatch c.bypass (.ofHost h.text) with
        | true => exact .bypassed on read host covered
        | false =>
          cases found : c.endpointFor u.scheme with
          | none => exact .noEndpoint on read host covered found
          | some e => exact .proxied on read host covered found

/-- A decision counts nothing by itself. -/
theorem decide_metrics (c : Config) (url : String) : (c.decide url).metrics = [] := by
  unfold decide decideHost
  repeat' split
  all_goals rfl

theorem route_value (c : Config) (url : String) :
    (c.route url).value = (c.decide url).value.1 := rfl

theorem route_metrics (c : Config) (url : String) :
    (c.route url).metrics = [.decision (c.decide url).value.2] := by
  simp [route, decide_metrics]

theorem route_exit (c : Config) (url : String) :
    Exit c url (c.route url).value (c.decide url).value.2 :=
  decide_exit c url

theorem isBypassed_iff (c : Config) (url : String) :
    c.isBypassed url = true ↔ ∃ u h, Url.parse url = .ok u ∧ u.host = some h ∧
      Bypass.anyMatch c.bypass (.ofHost h.text) = true := by
  unfold isBypassed destinationOf?
  cases read : Url.parse url with
  | error e => simp
  | ok u => cases host : u.host <;> simp [Url.destination?, host]

namespace Exit

variable {c : Config} {url : String} {v : Verdict} {r : Reason}

/-- A proxied URL leaves by the last exit, with the endpoint that its scheme asks for. -/
theorem of_proxiedThrough {e : Endpoint} (exit : Exit c url v r) (h : c.ProxiedThrough url e) :
    v = .proxy [e] := by
  obtain ⟨on, u, host, read, hhost, free, scheme⟩ := h
  have free' := (Bypass.anyMatch_eq_false_iff c.bypass (.ofHost host.text)).mpr free
  rw [← endpointFor_eq] at scheme
  cases exit <;> simp_all

/-- The last exit needs everything that speaks for the proxy. -/
theorem proxiedThrough {targets : List Endpoint} (exit : Exit c url (.proxy targets) r) :
    ∃ e, targets = [e] ∧ c.ProxiedThrough url e := by
  cases exit with
  | proxied on read host uncovered found =>
    exact ⟨_, rfl, on, _, _, read, host, (Bypass.anyMatch_eq_false_iff _ _).mp uncovered,
      (c.endpointFor_eq _).symm.trans found⟩

theorem reason_eq_proxied_iff (exit : Exit c url v r) : r = .proxied ↔ ∃ ts, v = .proxy ts := by
  cases exit <;> simp

theorem reason_eq_bypassed_iff (exit : Exit c url v r) :
    r = .bypassed ↔ c.enabled = true ∧ c.isBypassed url = true := by
  rw [isBypassed_iff]
  cases exit <;> simp_all

theorem direct_of_isBypassed (exit : Exit c url v r) (h : c.isBypassed url = true) :
    v = .direct := by
  rw [isBypassed_iff] at h
  cases exit <;> simp_all

end Exit

/-- A URL is proxied exactly if everything speaks for it, then through one target, and direct
otherwise. Each verdict is counted once, under labels that agree with it and with what the rules say
about the URL, and a URL that the rules cover is direct whether proxying is on or off. -/
theorem route_eq_proxy_iff (c : Config) (url : String) :
    (∀ ts, (c.route url).value = .proxy ts ↔ ∃ e, ts = [e] ∧ c.ProxiedThrough url e) ∧
    (∀ e, c.ProxiedThrough url e → (c.route url).value.hops = [.http e, .direct]) ∧
    ((∀ e, ¬ c.ProxiedThrough url e) →
      (c.route url).value = .direct ∧ (c.route url).value.hops = [.direct]) ∧
    (∃ m, (c.route url).metrics = [m] ∧
      m.name = "proxy_router_decisions_total" ∧ m.value = 1 ∧
      (m.labels.lookup "verdict" = some "proxy" ↔ ∃ ts, (c.route url).value = .proxy ts) ∧
      (m.labels.lookup "reason" = some "bypassed" ↔
        c.enabled = true ∧ c.isBypassed url = true)) ∧
    (c.isBypassed url = true → (c.route url).value = .direct) := by
  have exit := c.route_exit url
  have proxied : ∀ e, c.ProxiedThrough url e → (c.route url).value = .proxy [e] :=
    fun e h => exit.of_proxiedThrough h
  refine ⟨?_, ?_, ?_, ⟨.decision (c.decide url).value.2, c.route_metrics url, rfl, rfl, ?_, ?_⟩,
    exit.direct_of_isBypassed⟩
  · intro ts
    constructor
    · intro h
      rw [h] at exit
      exact exit.proxiedThrough
    · rintro ⟨e, rfl, h⟩
      exact proxied e h
  · intro e h
    rw [proxied e h]
    rfl
  · intro unproxied
    have direct : (c.route url).value = .direct := by
      cases value : (c.route url).value with
      | direct => rfl
      | proxy ts =>
        rw [value] at exit
        obtain ⟨e, _, h⟩ := exit.proxiedThrough
        exact absurd h (unproxied e)
    exact ⟨direct, by rw [direct]; rfl⟩
  · rw [← exit.reason_eq_proxied_iff]
    cases (c.decide url).value.2 <;> decide
  · rw [← exit.reason_eq_bypassed_iff]
    cases (c.decide url).value.2 <;> decide

end Config

end Egress
