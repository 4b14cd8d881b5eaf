import Egress.Proofs.AnswerLines
import Egress.Proofs.Generations

/-!
# Verdicts and their count

A session gives verdicts where it is asked to route and where it answers a line. Every verdict that
comes from a decision is counted once, in order, and under a label that says whether there is a
proxy among the hops that the one who asked gets to read. A line that is no text is answered without
a decision, and so it is given a verdict that is never counted. The count falls short by the number
of these lines.
-/

namespace Egress

def decisions (updates : List Metric) : List Metric :=
  updates.filter fun m => m.name == "proxy_router_decisions_total"

theorem decisions_append (xs ys : List Metric) :
    decisions (xs ++ ys) = decisions xs ++ decisions ys :=
  List.filter_append xs ys

def Request.isUndecodable : Request → Bool
  | line bytes => (Text.Utf8.decode bytes).toOption.isNone
  | _ => false

theorem Request.isUndecodable_line_eq_false_iff (bytes : List UInt8) :
    (Request.line bytes).isUndecodable = false ↔ ∃ text, bytes = Text.Utf8.encode text := by
  constructor
  · intro decodable
    cases decodes : Text.Utf8.decode bytes with
    | ok text => exact ⟨text, (Text.Utf8.decode_eq_ok_iff bytes text).mp decodes⟩
    | error e =>
      simp only [isUndecodable, decodes] at decodable
      cases decodable
  · rintro ⟨text, rfl⟩
    simp only [isUndecodable, Text.Utf8.decode_encode]
    rfl

namespace Reply

def givesVerdict : Reply → Bool
  | verdict _ => true
  | answer line => line.isSome
  | _ => false

/-- The hops that a reply gives: those of its verdict, or those that are read from its line. -/
def hops? : Reply → Option (List Hop)
  | verdict v => some v.hops
  | answer (some line) => hopsOf? (Text.Utf8.encode line).dropLast
  | _ => none

theorem hops?_answerLine (v : Verdict) :
    (answer (some (Live.answerLine v))).hops? = some v.hops := by
  obtain ⟨front, bytes, _, read⟩ := Live.frames_answerLine v
  rw [hops?, bytes, List.dropLast_concat, read]

end Reply

/-- An update that counts a reply: by one, and as proxied exactly if the reply has a proxy among its
hops. -/
structure Counts (m : Metric) (reply : Reply) : Prop where
  name : m.name = "proxy_router_decisions_total"
  once : m.value = 1
  label : ∃ hops, reply.hops? = some hops ∧
    (m.labels.lookup "verdict" = some "proxy" ↔ ∃ e, Hop.http e ∈ hops)

theorem Metric.label_eq_proxy_iff (r : Reason) :
    (decision r).labels.lookup "verdict" = some "proxy" ↔ r = .proxied := by
  cases r <;> decide

theorem Config.Exit.http_mem_hops_iff {c : Config} {url : String} {v : Verdict} {r : Reason}
    (exit : Exit c url v r) : (∃ e, Hop.http e ∈ v.hops) ↔ r = .proxied := by
  cases exit with
  | proxied => exact ⟨fun _ => rfl, fun _ => ⟨_, List.mem_cons_self⟩⟩
  | disabled | invalidUrl | noHost | bypassed | noEndpoint =>
    constructor
    · rintro ⟨e, mem⟩
      cases List.mem_singleton.mp mem
    · intro same
      cases same

/-- A decision is counted as what its hops say. -/
theorem Config.counts_route (c : Config) (url : String) {reply : Reply}
    (told : reply.hops? = some (c.route url).value.hops) :
    Counts (.decision (c.decide url).value.2) reply := by
  refine ⟨rfl, rfl, _, told, ?_⟩
  rw [Metric.label_eq_proxy_iff, (c.route_exit url).http_mem_hops_iff]

namespace Session

/-- What one request does to the count: nothing where no verdict is given, one update for a verdict,
and nothing for the direct verdict on a line that is no text. -/
inductive Tally (r : Request) (reply : Reply) : List Metric → Prop where
  | silent (decodable : r.isUndecodable = false) (ungiven : reply.givesVerdict = false) :
      Tally r reply []
  | uncounted (undecodable : r.isUndecodable = true) (given : reply.givesVerdict = true)
      (direct : reply.hops? = some [.direct]) : Tally r reply []
  | counted (decodable : r.isUndecodable = false) (given : reply.givesVerdict = true) {m : Metric}
      (counts : Counts m reply) : Tally r reply [m]

theorem tally_route (c : Config) (url : String) (r : Request)
    (decodable : r.isUndecodable = false) :
    Tally r (.verdict (c.route url).value) (decisions (c.route url).metrics) := by
  rw [Config.route_metrics]
  exact .counted decodable rfl (c.counts_route url rfl)

theorem tally_line (l : Live) (bytes : List UInt8) :
    Tally (.line bytes) (.answer (l.answer bytes).value) (decisions (l.answer bytes).metrics) := by
  cases decodes : Text.Utf8.decode bytes with
  | error e =>
    have undecodable : (Request.line bytes).isUndecodable = true := by
      rw [Request.isUndecodable, decodes]
      rfl
    have quiet : (l.answer bytes).metrics = [] := by
      simp only [Live.answer, decodes]
      rfl
    rw [l.answer_of_undecodable decodes, quiet]
    exact .uncounted undecodable rfl (Reply.hops?_answerLine .direct)
  | ok text =>
    have decodable : (Request.line bytes).isUndecodable = false := by
      rw [Request.isUndecodable, decodes]
      rfl
    by_cases blank : ∀ c ∈ text.toList, Text.isBlank c = true
    · have quiet : (l.answer bytes).metrics = [] := by
        simp only [Live.answer, decodes, (Text.isEmpty_trim_iff text).mpr blank, if_true]
        rfl
      rw [l.answer_of_blank decodes blank, quiet]
      exact .silent decodable rfl
    · have routed : (l.answer bytes).metrics = (l.route (Text.trim text)).metrics := by
        have visible := (Text.isEmpty_trim_iff text).not.mpr blank
        simp only [Live.answer, decodes, visible]
        rw [if_neg Bool.false_ne_true, Traced.metrics_map]
      rw [l.answer_of_text decodes blank, routed, Live.route, Config.route_metrics]
      exact .counted decodable rfl (l.current.counts_route _ (Reply.hops?_answerLine _))

/-- A request that makes a snapshot live gives no verdict. -/
theorem tally_replacement {s : Session} {r : Request} {c : Config}
    (next : s.replacement? r = some c) :
    Tally r (s.step r).value.2 (decisions (s.step r).metrics) := by
  obtain ⟨value, updates⟩ := step_of_replacement next
  rw [value, updates]
  refine .silent ?_ rfl
  cases r with
  | line => cases next
  | _ => rfl

theorem step_tally (s : Session) (r : Request) :
    Tally r (s.step r).value.2 (decisions (s.step r).metrics) := by
  cases r with
  | apply payload => exact tally_replacement rfl
  | reload place =>
    cases load : Payload.load place with
    | ok c =>
      have next : s.replacement? (.reload place) = some c.value := by
        simp only [replacement?, load]
        rfl
      exact tally_replacement next
    | error e =>
      simp only [step, Live.reload, load, Except.map]
      exact .silent rfl rfl
  | route url =>
    simp only [step, Live.route, Traced.metrics_map]
    exact tally_route s.live.current url _ rfl
  | line bytes =>
    simp only [step, Traced.metrics_map]
    exact tally_line s.live bytes
  | routeHeld index url =>
    simp only [step, withHeld]
    cases s.held[index]? with
    | some c =>
      simp only [Traced.metrics_map]
      exact tally_route c url _ rfl
    | none => exact .silent rfl rfl
  | restoreHeld index =>
    cases held : s.held[index]? with
    | some c => exact tally_replacement held
    | none =>
      simp only [step, withHeld, held]
      exact .silent rfl rfl
  | showHeld index =>
    simp only [step, withHeld]
    cases s.held[index]? with
    | some c => exact .silent rfl rfl
    | none => exact .silent rfl rfl
  | hold | «show» => exact .silent rfl rfl

def verdictReplies (replies : List Reply) : List Reply :=
  replies.filter Reply.givesVerdict

/-- The replies that give a verdict, without those to lines that are no text. -/
def countedReplies (rs : List Request) (replies : List Reply) : List Reply :=
  ((rs.zip replies).filter fun p => p.2.givesVerdict && !p.1.isUndecodable).map Prod.snd

theorem verdictReplies_cons (reply : Reply) (replies : List Reply) :
    verdictReplies (reply :: replies) =
      if reply.givesVerdict then reply :: verdictReplies replies else verdictReplies replies :=
  List.filter_cons

theorem countedReplies_cons (r : Request) (rs : List Request) (reply : Reply)
    (replies : List Reply) :
    countedReplies (r :: rs) (reply :: replies) =
      if reply.givesVerdict && !r.isUndecodable then reply :: countedReplies rs replies
      else countedReplies rs replies := by
  simp only [countedReplies, List.zip_cons_cons, List.filter_cons]
  split
  · rfl
  · rfl

theorem run_counts (s : Session) (rs : List Request) :
    List.Forall₂ Counts (decisions (s.run rs).metrics) (countedReplies rs (s.run rs).value.2) ∧
      (verdictReplies (s.run rs).value.2).length =
        (decisions (s.run rs).metrics).length + rs.countP Request.isUndecodable := by
  induction rs generalizing s with
  | nil => exact ⟨.nil, rfl⟩
  | cons r rs ih =>
    obtain ⟨counted, total⟩ := ih (s.step r).value.1
    have tally := s.step_tally r
    rw [run_cons_metrics, run_cons_value, decisions_append, verdictReplies_cons,
      countedReplies_cons, List.countP_cons]
    generalize decisions (s.step r).metrics = updates at tally
    cases tally with
    | silent decodable ungiven =>
      simp only [decodable, ungiven]
      exact ⟨counted, total⟩
    | uncounted undecodable given _ =>
      simp only [undecodable, given]
      refine ⟨counted, ?_⟩
      simp only [if_true, List.nil_append, List.length_cons, total]
      omega
    | counted decodable given counts =>
      simp only [decodable, given]
      refine ⟨.cons counts counted, ?_⟩
      simp only [if_true, Bool.false_eq_true, if_false, List.cons_append, List.nil_append,
        List.length_cons, total]
      omega

theorem countedReplies_run (s : Session) {rs : List Request}
    (decodable : ∀ r ∈ rs, r.isUndecodable = false) :
    countedReplies rs (s.run rs).value.2 = verdictReplies (s.run rs).value.2 := by
  induction rs generalizing s with
  | nil => rfl
  | cons r rs ih =>
    rw [run_cons_value, countedReplies_cons, verdictReplies_cons,
      decodable r List.mem_cons_self, ih _ fun r' mem => decodable r' (List.mem_cons_of_mem r mem),
      Bool.not_false, Bool.and_true]

theorem direct_of_undecodable (s : Session) (rs : List Request) :
    ∀ p ∈ rs.zip (s.run rs).value.2, p.1.isUndecodable = true → p.2.hops? = some [.direct] := by
  induction rs generalizing s with
  | nil =>
    intro p mem
    cases mem
  | cons r rs ih =>
    intro p mem undecodable
    rw [run_cons_value, List.zip_cons_cons] at mem
    rcases List.mem_cons.mp mem with rfl | later
    · have tally := s.step_tally r
      generalize decisions (s.step r).metrics = updates at tally
      cases tally with
      | uncounted _ _ direct => exact direct
      | silent decodable | counted decodable =>
        exact absurd undecodable (Bool.eq_false_iff.mp decodable)
    · exact ih (s.step r).value.1 p later undecodable

theorem decisions_history (o : Live.Origin) (rs : List Request) :
    decisions (history o rs).metrics = decisions ((ofOrigin o).value.run rs).metrics := by
  rw [history_metrics, decisions_append]
  rfl

theorem forall_decodable_iff (rs : List Request) :
    (∀ r ∈ rs, r.isUndecodable = false) ↔
      ∀ bytes, .line bytes ∈ rs → ∃ text, bytes = Text.Utf8.encode text := by
  constructor
  · intro decodable bytes mem
    exact (Request.isUndecodable_line_eq_false_iff bytes).mp (decodable _ mem)
  · intro texts r mem
    cases r with
    | line bytes => exact (Request.isUndecodable_line_eq_false_iff bytes).mpr (texts bytes mem)
    | _ => rfl

/-- The updates of a session count the verdicts given, in order and each as what its hops say,
except the direct ones on lines that are no text, which are given and not counted. So all verdicts
are counted exactly if every line is a text. -/
theorem decisions_count_verdicts (o : Live.Origin) (rs : List Request) :
    List.Forall₂ Counts (decisions (history o rs).metrics)
      (countedReplies rs (history o rs).value.2) ∧
    (verdictReplies (history o rs).value.2).length =
      (decisions (history o rs).metrics).length + rs.countP Request.isUndecodable ∧
    (∀ p ∈ rs.zip (history o rs).value.2, p.1.isUndecodable = true → p.2.hops? = some [.direct]) ∧
    (List.Forall₂ Counts (decisions (history o rs).metrics)
        (verdictReplies (history o rs).value.2) ↔
      ∀ bytes, .line bytes ∈ rs → ∃ text, bytes = Text.Utf8.encode text) := by
  rw [decisions_history, history_value]
  obtain ⟨counted, total⟩ := (ofOrigin o).value.run_counts rs
  refine ⟨counted, total, direct_of_undecodable _ rs, ?_⟩
  rw [← forall_decodable_iff]
  constructor
  · intro all r mem
    have none : rs.countP Request.isUndecodable = 0 := by
      have same := all.length_eq
      omega
    exact Bool.eq_false_iff.mpr (List.countP_eq_zero.mp none r mem)
  · intro decodable
    rw [← countedReplies_run _ decodable]
    exact counted

def switchedOn : Live.Origin :=
  .payload (.object [("proxyEnabled", .bool true)])

/-- A line of two bytes that are no text, and its end: one verdict, and none counted. -/
theorem undecodable_line_uncounted :
    (history switchedOn [.line [0xFF, 0xFE, 0x0A]]).value.2 =
        [.answer (some (Live.answerLine .direct))] ∧
      (verdictReplies (history switchedOn [.line [0xFF, 0xFE, 0x0A]]).value.2).length = 1 ∧
      (decisions (history switchedOn [.line [0xFF, 0xFE, 0x0A]]).metrics).length = 0 := by
  decide +kernel

end Session

end Egress
