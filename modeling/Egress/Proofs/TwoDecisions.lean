import Mathlib.Data.List.Basic
import Egress.Proofs.Decision

/-!
# Two decisions compared

A decision sees little of its snapshot and of the URL: whether proxying is on, the host, whether a
rule covers it, and the endpoint for the scheme. Where all of these are alike, so are the verdict
and its reason, and where more hosts are covered, verdicts become direct but never change otherwise.

So the endpoint for one scheme has no influence on the URLs of another. Where one endpoint serves
both schemes, the two URLs that differ in nothing but the scheme are decided alike; that they have
the same host, or are both no URLs, is a property of how URLs are read and proved first.
-/

namespace Egress

/-- The host that is read from a text, if the text is a URL; a URL may be without one. -/
def hostRead? (url : String) : Option (Option Host) :=
  (Url.parse url).toOption.map Url.host

/-! ## URLs that differ in the scheme -/

namespace Url

/-- What counts of a text behind a part that counts. -/
def relevantEnd (cs : List Char) : List Char :=
  (cs.reverse.dropWhile isEdge).reverse.filter fun c => !isIgnored c

theorem isEdge_of_isIgnored {c : Char} (ignored : isIgnored c = true) : isEdge c = true := by
  simp only [isIgnored, Bool.or_eq_true, beq_iff_eq] at ignored
  rcases ignored with (rfl | rfl) | rfl
  · rfl
  · rfl
  · rfl

theorem dropWhile_isEdge_append {front : List Char} (some : front ≠ [])
    (visible : ∀ c ∈ front, ¬ isEdge c = true) (rest : List Char) :
    (front ++ rest).dropWhile isEdge = front ++ rest := by
  obtain ⟨c, cs, rfl⟩ := List.exists_cons_of_ne_nil some
  rw [List.cons_append, List.dropWhile_cons_of_neg]
  exact visible c List.mem_cons_self

/-- A part without blanks and controls stays as it is at the front of a text. -/
theorem relevant_append {front : List Char} (some : front ≠ [])
    (visible : ∀ c ∈ front, ¬ isEdge c = true) (rest : List Char) :
    relevant (front ++ rest) = front ++ relevantEnd rest := by
  have last : front.reverse.dropWhile isEdge = front.reverse := by
    have same : (front.reverse ++ []).dropWhile isEdge = front.reverse ++ [] :=
      dropWhile_isEdge_append (by simpa using some)
        (fun c mem => visible c (List.mem_reverse.mp mem)) []
    rwa [List.append_nil] at same
  have kept : front.filter (fun c => !isIgnored c) = front := by
    rw [List.filter_eq_self]
    intro c mem
    cases ignored : isIgnored c with
    | false => rfl
    | true => exact absurd (isEdge_of_isIgnored ignored) (visible c mem)
  have trimmed : ((front ++ rest).reverse.dropWhile isEdge).reverse =
      front ++ (rest.reverse.dropWhile isEdge).reverse := by
    rw [List.reverse_append, List.dropWhile_append]
    split
    · next empty =>
      rw [last, List.isEmpty_iff.mp empty, List.reverse_reverse, List.reverse_nil, List.append_nil]
    · rw [List.reverse_append, List.reverse_reverse]
  rw [relevant, dropWhile_isEdge_append some visible, trimmed, List.filter_append, kept,
    relevantEnd]

/-- A scheme in lower case is read off the front of a text. -/
theorem splitScheme_append {c : Char} {cs : List Char} (letter : c.isAlpha = true)
    (scheme : (c :: cs).all isSchemeChar = true) (lower : (c :: cs).map Char.toLower = c :: cs)
    (rest : List Char) : splitScheme (c :: cs ++ ':' :: rest) = some (c :: cs, rest) := by
  have taken : (c :: cs ++ ':' :: rest).takeWhile isSchemeChar = c :: cs := by
    rw [List.takeWhile_append_of_pos (List.all_eq_true.mp scheme)]
    exact List.append_nil _
  have left : (c :: cs ++ ':' :: rest).dropWhile isSchemeChar = ':' :: rest :=
    List.dropWhile_append_of_pos (List.all_eq_true.mp scheme)
  rw [List.cons_append] at taken left ⊢
  simp only [splitScheme, letter, if_true, left, taken, lower]

/-- A URL that begins with a scheme for servers and two slashes. The scheme has no part in what is
read behind it. -/
theorem parse_net {front : String} {c : Char} {cs : List Char}
    (text : front.toList = c :: cs ++ "://".toList) (letter : c.isAlpha = true)
    (scheme : (c :: cs).all isSchemeChar = true) (lower : (c :: cs).map Char.toLower = c :: cs)
    (visible : front.toList.any isEdge = false) (net : SchemeClass.of (c :: cs) = .net)
    (rest : String) :
    parse (front ++ rest) = (hostAfter .net ("//".toList ++ relevantEnd rest.toList)).map
      fun host => ⟨String.ofList (c :: cs), host⟩ := by
  have counts : relevant (front ++ rest).toList =
      c :: cs ++ ':' :: ("//".toList ++ relevantEnd rest.toList) := by
    rw [String.toList_append, relevant_append (by simp [text]) (List.any_eq_false.mp visible), text,
      List.append_assoc]
    rfl
  have split : splitScheme (relevant (front ++ rest).toList) =
      some (c :: cs, "//".toList ++ relevantEnd rest.toList) := by
    rw [counts]
    exact splitScheme_append letter scheme lower _
  simp only [parse, split, net]

/-- With `https` or with `http` in front, the same host is read from a text, or none. -/
theorem hostRead?_https (rest : String) :
    hostRead? ("https://" ++ rest) = hostRead? ("http://" ++ rest) := by
  have https := @parse_net "https://" 'h' "ttps".toList rfl (by decide) (by decide) (by decide)
    (by decide) (by decide) rest
  have http := @parse_net "http://" 'h' "ttp".toList rfl (by decide) (by decide) (by decide)
    (by decide) (by decide) rest
  rw [hostRead?, hostRead?, https, http]
  cases hostAfter .net ("//".toList ++ relevantEnd rest.toList) <;> rfl

end Url

/-! ## Decisions on alike inputs -/

namespace Config

/-- What two decisions have to agree on, the rules apart: whether proxying is on, the host that is
read, and the endpoint for the scheme. -/
structure Alike (c c' : Config) (url url' : String) : Prop where
  enabled : c.enabled = c'.enabled
  host : hostRead? url = hostRead? url'
  endpoint : ∀ u u', Url.parse url = .ok u → Url.parse url' = .ok u' →
    c.endpointFor u.scheme = c'.endpointFor u'.scheme

variable {c c' : Config} {url url' : String}

theorem Alike.symm (alike : Alike c c' url url') : Alike c' c url' url where
  enabled := alike.enabled.symm
  host := alike.host.symm
  endpoint u u' read read' := (alike.endpoint u' u read' read).symm

/-- One URL, and two snapshots with the same endpoint for its scheme. -/
theorem alike_of_endpoint (enabled : c.enabled = c'.enabled)
    (endpoint : ∀ u, Url.parse url = .ok u → c.endpointFor u.scheme = c'.endpointFor u.scheme) :
    Alike c c' url url := by
  refine ⟨enabled, rfl, ?_⟩
  intro u u' read read'
  obtain rfl : u = u' := Except.ok.inj (read.symm.trans read')
  exact endpoint u read

/-- One URL, and two snapshots that differ in the rules alone. -/
theorem alike_of_rules (c : Config) (rules : List Bypass.Rule) (url : String) :
    Alike c { c with bypass := rules } url url :=
  alike_of_endpoint rfl fun _ _ => rfl

/-- Rules that cover more bypass more, and change no decision otherwise. -/
theorem Exit.of_more {v v' : Verdict} {r r' : Reason} (exit : Exit c url v r)
    (exit' : Exit c' url' v' r') (alike : Alike c c' url url')
    (more : ∀ d, Bypass.anyMatch c.bypass d = true → Bypass.anyMatch c'.bypass d = true) :
    (v', r') = (v, r) ∨ (v', r') = (.direct, .bypassed) := by
  have enabled := alike.enabled
  have endpoint := alike.endpoint
  have host : (Url.parse url).toOption.map Url.host = (Url.parse url').toOption.map Url.host :=
    alike.host
  -- Two different ways out contradict what is alike, unless the second is that of a rule.
  cases exit <;> cases exit' <;> simp_all [Except.toOption]

theorem decide_of_more (alike : Alike c c' url url')
    (more : ∀ d, Bypass.anyMatch c.bypass d = true → Bypass.anyMatch c'.bypass d = true) :
    (c'.decide url').value = (c.decide url).value ∨
      (c'.decide url').value = (.direct, .bypassed) :=
  (c.decide_exit url).of_more (c'.decide_exit url') alike more

theorem decide_congr (alike : Alike c c' url url')
    (same : ∀ d, Bypass.anyMatch c.bypass d = Bypass.anyMatch c'.bypass d) :
    (c'.decide url').value = (c.decide url).value := by
  have more := decide_of_more alike fun d covered => (same d).symm.trans covered
  have less := decide_of_more alike.symm fun d covered => (same d).trans covered
  rcases more with equal | bypassed
  · exact equal
  · rcases less with equal | bypassed'
    · exact equal.symm
    · exact bypassed.trans bypassed'.symm

/-! ## Schemes and endpoints -/

theorem endpointFor_of_ne {scheme : String} (other : scheme ≠ "https") (https : Option Endpoint) :
    { c with https := https }.endpointFor scheme = c.endpointFor scheme := by
  rw [endpointFor, endpointFor, if_neg other, if_neg other]

theorem endpointFor_https (apart : c.useHttpForHttps = false) (http : Option Endpoint) :
    { c with http := http }.endpointFor "https" = c.endpointFor "https" := by
  simp only [endpointFor, httpsEndpoint, apart, if_true, Bool.false_eq_true, if_false]

theorem endpointFor_shared (shared : c.useHttpForHttps = true) (scheme : String) :
    c.endpointFor scheme = c.http := by
  simp only [endpointFor, httpsEndpoint, shared, if_true, ite_self]

/-- The endpoint for `https` has no influence on other URLs, and that for `http`, unless it serves
both, none on those. If it serves both, `https` and `http` in front of a text make no difference. -/
theorem schemes_isolated (c : Config) :
    (∀ url, (∀ u, Url.parse url = .ok u → u.scheme ≠ "https") → ∀ https : Option Endpoint,
      ({ c with https := https }.decide url).value = (c.decide url).value) ∧
    (c.useHttpForHttps = false →
      ∀ url u, Url.parse url = .ok u → u.scheme = "https" → ∀ http : Option Endpoint,
        ({ c with http := http }.decide url).value = (c.decide url).value) ∧
    (c.useHttpForHttps = true → ∀ rest : String,
      (c.decide ("https://" ++ rest)).value = (c.decide ("http://" ++ rest)).value) := by
  refine ⟨?_, ?_, ?_⟩
  · intro url other https
    refine decide_congr (alike_of_endpoint rfl ?_) fun _ => rfl
    intro u read
    exact (endpointFor_of_ne (other u read) https).symm
  · intro apart url u read scheme http
    refine decide_congr (alike_of_endpoint rfl ?_) fun _ => rfl
    intro u' read'
    obtain rfl : u = u' := Except.ok.inj (read.symm.trans read')
    rw [scheme]
    exact (endpointFor_https apart http).symm
  · intro shared rest
    refine decide_congr ⟨rfl, (Url.hostRead?_https rest).symm, ?_⟩ fun _ => rfl
    intro u u' _ _
    rw [endpointFor_shared shared, endpointFor_shared shared]

def bothEndpoints : Config where
  enabled := true
  http := some ⟨"proxy.local", 8080⟩
  https := some ⟨"secure.local", 8443⟩
  bypass := Bypass.defaults.map Bypass.Rule.ofText

/-- A web socket goes through the endpoint for `http` even if it is secure: the other endpoint may
be taken away, and this one may not. -/
theorem schemes_isolated_wss :
    Url.parse "wss://other.test/" = .ok ⟨"wss", some (.domain "other.test")⟩ ∧
      ({ bothEndpoints with https := none }.decide "wss://other.test/").value =
        (.proxy [⟨"proxy.local", 8080⟩], .proxied) ∧
      ({ bothEndpoints with http := none }.decide "wss://other.test/").value =
        (.direct, .noEndpoint) ∧
      ({ bothEndpoints with http := none }.decide "https://other.test/").value =
        (bothEndpoints.decide "https://other.test/").value ∧
      ({ bothEndpoints with useHttpForHttps := true }.decide "https://other.test/").value =
        ({ bothEndpoints with useHttpForHttps := true }.decide "http://other.test/").value := by
  have read : Url.parse "wss://other.test/" = .ok ⟨"wss", some (.domain "other.test")⟩ := by
    decide +kernel
  have readSecure : Url.parse "https://other.test/" =
      .ok ⟨"https", some (.domain "other.test")⟩ := by
    decide +kernel
  have other : ∀ u, Url.parse "wss://other.test/" = .ok u → u.scheme ≠ "https" := by
    intro u same
    obtain rfl := Except.ok.inj (read.symm.trans same)
    decide
  have proxied : (bothEndpoints.decide "wss://other.test/").value =
      (.proxy [⟨"proxy.local", 8080⟩], .proxied) := by
    decide +kernel
  refine ⟨read, ?_, ?_, ?_, ?_⟩
  · exact ((schemes_isolated bothEndpoints).1 _ other none).trans proxied
  · decide +kernel
  · exact (schemes_isolated bothEndpoints).2.1 rfl _ _ readSecure rfl none
  · exact (schemes_isolated { bothEndpoints with useHttpForHttps := true }).2.2 rfl "other.test/"

end Config

end Egress
