import Egress.Session
import Egress.Proofs.Decision
import Egress.Proofs.Doubles
import Egress.Proofs.Hydration

/-!
# Generations in a session

A session counts the generations it hands out, stamps them on the snapshots it makes live and shows
them on a gauge. The three agree after every request: one invariant, kept by each request, ties the
counter to the number of swaps and the live snapshot to the counter. Held snapshots are outside of
it, since no request touches them.

The gauge holds doubles, so that what it shows is the generation only up to `2 ^ 53`. Requests come
one after another; writers at the same time are not described.
-/

namespace Egress

inductive Live.Origin where
  | config (c : Config)
  | payload (p : Json)
  | unset

namespace Live.Origin

def live : Origin → Traced Live
  | config c => Live.ofConfig c
  | payload p => Live.ofPayload p
  | unset => Live.unconfigured

theorem live_generation (o : Origin) : o.live.value.generation = 1 ∧ o.live.value.last = 1 := by
  cases o <;> exact ⟨rfl, rfl⟩

theorem live_metrics (o : Origin) : o.live.metrics = [.generation 1] := by
  cases o with
  | config c => rfl
  | payload p =>
    simp only [live, Live.ofPayload, Traced.metrics_bind, Payload.metrics_hydrate]
    rfl
  | unset => rfl

end Live.Origin

def Reply.generation? : Reply → Option UInt64
  | swapped g => some g
  | _ => none

def generations (replies : List Reply) : List UInt64 :=
  replies.filterMap Reply.generation?

def swaps (replies : List Reply) : Nat :=
  (generations replies).length

def Metric.generation? : Metric → Option UInt64
  | generation g => some g
  | _ => none

/-- What the gauge of generations shows after some updates. -/
def shown (updates : List Metric) : Option Nat :=
  (updates.filterMap Metric.generation?).getLast?.map fun g => (Metric.generation g).value

theorem shown_append (xs ys : List Metric) : shown (xs ++ ys) = (shown ys).or (shown xs) := by
  rw [shown, List.filterMap_append, List.getLast?_append, Option.map_or]
  rfl

theorem generations_append (xs ys : List Reply) :
    generations (xs ++ ys) = generations xs ++ generations ys :=
  List.filterMap_append

theorem swaps_append (xs ys : List Reply) : swaps (xs ++ ys) = swaps xs + swaps ys := by
  rw [swaps, generations_append, List.length_append]
  rfl

/-- Answering a line publishes no generation. -/
theorem answer_publishes_nothing (l : Live) (bytes : List UInt8) :
    (l.answer bytes).metrics.filterMap Metric.generation? = [] := by
  unfold Live.answer
  split
  · simp only
    split
    · rfl
    · simp [Live.route, Config.route_metrics, Metric.generation?]
  · rfl

namespace Session

/-- The snapshot that a request makes live, if it makes one live. -/
def replacement? (s : Session) : Request → Option Config
  | .apply payload => some (Payload.hydrate payload).value
  | .reload place => (Payload.load place).toOption.map Traced.value
  | .restoreHeld index => s.held[index]?
  | _ => none

def ofOrigin (o : Live.Origin) : Traced Session :=
  (fun live => ⟨live, []⟩) <$> o.live

def history (o : Live.Origin) (rs : List Request) : Traced (Session × List Reply) :=
  ofOrigin o >>= fun s => s.run rs

theorem run_cons_value (s : Session) (r : Request) (rs : List Request) :
    (s.run (r :: rs)).value =
      (((s.step r).value.1.run rs).value.1,
        (s.step r).value.2 :: ((s.step r).value.1.run rs).value.2) := rfl

theorem run_cons_metrics (s : Session) (r : Request) (rs : List Request) :
    (s.run (r :: rs)).metrics = (s.step r).metrics ++ ((s.step r).value.1.run rs).metrics :=
  Traced.run_cons_metrics _ _ s r rs

theorem run_append_value (s : Session) (xs ys : List Request) :
    (s.run (xs ++ ys)).value =
      (((s.run xs).value.1.run ys).value.1,
        (s.run xs).value.2 ++ ((s.run xs).value.1.run ys).value.2) :=
  Traced.run_append_value _ _ s xs ys

theorem run_append_metrics (s : Session) (xs ys : List Request) :
    (s.run (xs ++ ys)).metrics = (s.run xs).metrics ++ ((s.run xs).value.1.run ys).metrics :=
  Traced.run_append_metrics _ _ s xs ys

theorem metrics_load {place : Place} {c : Traced Config} (h : Payload.load place = .ok c) :
    c.metrics = [] := by
  unfold Payload.load at h
  cases read : Payload.read place with
  | error e => rw [read] at h; cases h
  | ok payload =>
    rw [read] at h
    obtain rfl := Except.ok.inj h
    exact Payload.metrics_hydrate payload

/-- A request that makes a snapshot live stamps it with the next generation, replies with that
generation and publishes it, and leaves all else as it is. -/
theorem step_of_replacement {s : Session} {r : Request} {c : Config}
    (h : s.replacement? r = some c) :
    (s.step r).value =
        (⟨⟨c.stamped (s.live.last + 1), s.live.last + 1⟩, s.held⟩, .swapped (s.live.last + 1)) ∧
      (s.step r).metrics = [.generation (s.live.last + 1)] := by
  cases r with
  | apply payload =>
    obtain rfl := Option.some.inj h
    refine ⟨rfl, ?_⟩
    simp only [step, Live.apply, Traced.metrics_map, Traced.metrics_bind, Payload.metrics_hydrate]
    rfl
  | reload place =>
    cases load : Payload.load place with
    | error e => simp [replacement?, load, Except.toOption] at h
    | ok t =>
      obtain rfl : t.value = c := by simpa [replacement?, load, Except.toOption] using h
      simp only [step, Live.reload, load, Except.map, Traced.metrics_map, Traced.metrics_bind,
        metrics_load load]
      exact ⟨rfl, rfl⟩
  | restoreHeld index =>
    have held : s.held[index]? = some c := h
    simp only [step, withHeld, held]
    exact ⟨rfl, rfl⟩
  | route | line | hold | routeHeld | showHeld | «show» => cases h

/-- Any other request leaves the live snapshot alone, keeps what is held, and neither tells of a
generation nor publishes one. -/
theorem step_of_no_replacement {s : Session} {r : Request} (h : s.replacement? r = none) :
    (s.step r).value.1.live = s.live ∧ s.held <+: (s.step r).value.1.held ∧
      (s.step r).value.2.generation? = none ∧
      (s.step r).metrics.filterMap Metric.generation? = [] := by
  cases r with
  | apply payload => cases h
  | reload place =>
    cases load : Payload.load place with
    | error e =>
      simp only [step, Live.reload, load, Except.map]
      exact ⟨rfl, List.prefix_refl _, rfl, rfl⟩
    | ok t => simp [replacement?, load, Except.toOption] at h
  | route url =>
    simp only [step, Live.route, Traced.metrics_map, Config.route_metrics]
    exact ⟨rfl, List.prefix_refl _, rfl, rfl⟩
  | line bytes =>
    simp only [step, Traced.metrics_map]
    exact ⟨rfl, List.prefix_refl _, rfl, answer_publishes_nothing s.live bytes⟩
  | hold => exact ⟨rfl, List.prefix_append _ _, rfl, rfl⟩
  | routeHeld index url =>
    simp only [step, withHeld]
    cases s.held[index]? with
    | none => exact ⟨rfl, List.prefix_refl _, rfl, rfl⟩
    | some c =>
      simp only [Traced.metrics_map, Config.route_metrics]
      exact ⟨rfl, List.prefix_refl _, rfl, rfl⟩
  | showHeld index =>
    simp only [step, withHeld]
    cases s.held[index]? <;> exact ⟨rfl, List.prefix_refl _, rfl, rfl⟩
  | restoreHeld index =>
    have held : s.held[index]? = none := h
    simp only [step, withHeld, held]
    exact ⟨rfl, List.prefix_refl _, rfl, rfl⟩
  | «show» => exact ⟨rfl, List.prefix_refl _, rfl, rfl⟩

theorem held_step (s : Session) (r : Request) : s.held <+: (s.step r).value.1.held := by
  cases h : s.replacement? r with
  | none => exact (step_of_no_replacement h).2.1
  | some c =>
    have same : (s.step r).value.1.held = s.held := by rw [(step_of_replacement h).1]
    exact same.symm ▸ List.prefix_refl s.held

theorem held_run (s : Session) (rs : List Request) : s.held <+: (s.run rs).value.1.held :=
  Traced.run_invariant _ _ (P := fun s' => s.held <+: s'.held)
    (fun r _ s' held => held.trans (held_step s' r)) (List.prefix_refl _)

/-- The counter tells the number of swaps, and the live snapshot bears the counter. -/
structure Counted (s : Session) (n : Nat) : Prop where
  last : s.live.last.toNat = 1 + n
  live : s.live.generation = s.live.last

theorem Counted.step {s : Session} {n : Nat} (h : s.Counted n) (r : Request)
    (room : n + swaps [(s.step r).value.2] < 2 ^ 53) :
    (s.step r).value.1.Counted (n + swaps [(s.step r).value.2]) ∧
      (generations [(s.step r).value.2]).map UInt64.toNat =
        List.range' (n + 2) (swaps [(s.step r).value.2]) := by
  cases hr : s.replacement? r with
  | none =>
    obtain ⟨live, _, silent, _⟩ := step_of_no_replacement hr
    have untold : generations [(s.step r).value.2] = [] := by simp [generations, silent]
    rw [swaps, untold]
    refine ⟨⟨?_, ?_⟩, rfl⟩
    · rw [live]
      exact h.last
    · rw [live]
      exact h.live
  | some c =>
    have value := (step_of_replacement hr).1
    have one : generations [(s.step r).value.2] = [s.live.last + 1] := by
      rw [value]
      rfl
    rw [swaps, one] at room ⊢
    have next : (s.live.last + 1).toNat = n + 2 := by
      have last := h.last
      rw [UInt64.toNat_add, UInt64.toNat_one, Nat.mod_eq_of_lt] <;>
        simp only [List.length_singleton] at room <;> omega
    refine ⟨⟨?_, ?_⟩, ?_⟩
    · rw [value, List.length_singleton]
      exact next.trans (by omega)
    · rw [value]
      rfl
    · simp [next]

theorem Counted.run {s : Session} {n : Nat} (h : s.Counted n) (rs : List Request)
    (room : n + swaps (s.run rs).value.2 < 2 ^ 53) :
    (s.run rs).value.1.Counted (n + swaps (s.run rs).value.2) ∧
      (generations (s.run rs).value.2).map UInt64.toNat =
        List.range' (n + 2) (swaps (s.run rs).value.2) := by
  induction rs generalizing s n with
  | nil => exact ⟨h, rfl⟩
  | cons r rs ih =>
    have split : (s.run (r :: rs)).value.2 =
        [(s.step r).value.2] ++ ((s.step r).value.1.run rs).value.2 := rfl
    rw [split, swaps_append] at room ⊢
    obtain ⟨counted, first⟩ := h.step r (by omega)
    obtain ⟨counted', rest⟩ := ih counted (by omega)
    refine ⟨?_, ?_⟩
    · rw [← Nat.add_assoc]
      exact counted'
    · rw [generations_append, List.map_append, first, rest, Nat.add_right_comm,
        List.range'_append_1]

/-- The gauge shows the counter, rounded as doubles are. -/
theorem shown_step {s : Session} {updates : List Metric}
    (h : shown updates = some (Metric.generation s.live.last).value) (r : Request) :
    shown (updates ++ (s.step r).metrics) =
      some (Metric.generation (s.step r).value.1.live.last).value := by
  rw [shown_append]
  cases hr : s.replacement? r with
  | none =>
    obtain ⟨live, _, _, silent⟩ := step_of_no_replacement hr
    rw [live, shown, silent]
    exact h
  | some c =>
    rw [(step_of_replacement hr).1, (step_of_replacement hr).2]
    rfl

theorem shown_run {s : Session} {updates : List Metric}
    (h : shown updates = some (Metric.generation s.live.last).value) (rs : List Request) :
    shown (updates ++ (s.run rs).metrics) =
      some (Metric.generation (s.run rs).value.1.live.last).value := by
  induction rs generalizing s updates with
  | nil =>
    rw [run, Traced.run_nil, Traced.metrics_pure, List.append_nil]
    exact h
  | cons r rs ih =>
    rw [run_cons_metrics, ← List.append_assoc]
    exact ih (shown_step h r)

theorem ofOrigin_counted (o : Live.Origin) : (ofOrigin o).value.Counted 0 := by
  obtain ⟨live, last⟩ := o.live_generation
  refine ⟨?_, ?_⟩
  · exact congrArg UInt64.toNat last
  · exact live.trans last.symm

theorem history_value (o : Live.Origin) (rs : List Request) :
    (history o rs).value = ((ofOrigin o).value.run rs).value := rfl

theorem history_metrics (o : Live.Origin) (rs : List Request) :
    (history o rs).metrics = [.generation 1] ++ ((ofOrigin o).value.run rs).metrics := by
  rw [history, Traced.metrics_bind, ofOrigin, Traced.metrics_map, o.live_metrics]

theorem history_append (o : Live.Origin) (before later : List Request) :
    (history o (before ++ later)).value =
      (((history o before).value.1.run later).value.1,
        (history o before).value.2 ++ ((history o before).value.1.run later).value.2) :=
  run_append_value (ofOrigin o).value before later

/-- One more request. -/
theorem history_concat_metrics (o : Live.Origin) (before : List Request) (r : Request) :
    (history o (before ++ [r])).metrics =
      (history o before).metrics ++ ((history o before).value.1.step r).metrics := by
  rw [history_metrics, run_append_metrics, ← List.append_assoc, ← history_metrics,
    run_cons_metrics, history_value, run, Traced.run_nil, Traced.metrics_pure, List.append_nil]

theorem history_counted {o : Live.Origin} {rs : List Request}
    (short : swaps (history o rs).value.2 < 2 ^ 53) :
    (history o rs).value.1.Counted (swaps (history o rs).value.2) ∧
      (generations (history o rs).value.2).map UInt64.toNat =
        List.range' 2 (swaps (history o rs).value.2) := by
  have counted := (ofOrigin_counted o).run rs (by rw [Nat.zero_add]; exact short)
  rw [Nat.zero_add] at counted
  exact counted

theorem Counted.generation {s : Session} {n : Nat} (h : s.Counted n) :
    s.live.generation.toNat = 1 + n := by
  rw [h.live]
  exact h.last

/-- A held snapshot is answered for by itself. -/
theorem routeHeld_reply {s : Session} {i : Nat} {c : Config} (held : s.held[i]? = some c)
    (url : String) : (s.step (.routeHeld i url)).value.2 = .verdict (c.route url).value := by
  simp only [step, withHeld, held]
  rfl

/-- What holds of a session after some requests: the generation counts the swaps, the gauge shows
it, no generation came twice, and whatever is held stays as it is. -/
structure Settled (o : Live.Origin) (rs : List Request) : Prop where
  generation : (history o rs).value.1.live.generation.toNat = 1 + swaps (history o rs).value.2
  gauge : shown (history o rs).metrics = some (history o rs).value.1.live.generation.toNat
  fresh : (1 :: generations (history o rs).value.2).Pairwise (· < ·)
  held : ∀ i c, (history o rs).value.1.held[i]? = some c → ∀ later url,
    (history o (rs ++ later)).value.1.held[i]? = some c ∧
      ((history o (rs ++ later)).value.1.step (.routeHeld i url)).value.2 =
        .verdict (c.route url).value

/-- What one request makes of a session: a swap hands out a new generation and publishes it, every
other request leaves the live snapshot alone, and a snapshot that cannot be loaded leaves all. -/
structure Handled (s : Session) (r : Request) (s' : Session) (reply : Reply)
    (updates : List Metric) : Prop where
  swapped : ∀ c, s.replacement? r = some c →
    s.live.generation < s'.live.generation ∧
      s'.live.current = { c with generation := s'.live.generation } ∧
      reply = .swapped s'.live.generation ∧ updates = [.generation s'.live.generation] ∧
      (Metric.generation s'.live.generation).value = s'.live.generation.toNat
  kept : s.replacement? r = none →
    s'.live = s.live ∧ reply.generation? = none ∧ updates.filterMap Metric.generation? = []
  failed : ∀ place e, r = .reload place → Payload.load place = .error e →
    s' = s ∧ reply = .failed e ∧ updates = []
  holding : r = .hold → s'.held = s.held ++ [s.live.current]
  restored : ∀ i c, r = .restoreHeld i → s.held[i]? = some c →
    s'.live.current = { c with generation := s'.live.generation }

theorem settled {o : Live.Origin} {rs : List Request}
    (short : swaps (history o rs).value.2 < 2 ^ 53) : Settled o rs := by
  obtain ⟨counted, handedOut⟩ := history_counted short
  refine ⟨counted.generation, ?_, ?_, ?_⟩
  · have start : shown [.generation 1] =
        some (Metric.generation (ofOrigin o).value.live.last).value := by
      have last : (ofOrigin o).value.live.last = 1 := o.live_generation.2
      rw [last]
      rfl
    have total := counted.last
    rw [history_metrics, shown_run start rs, ← history_value, counted.live]
    exact congrArg some (Binary64.whole_ofUInt64 (by omega))
  · have consecutive : (1 :: generations (history o rs).value.2).map UInt64.toNat =
        List.range' 1 (swaps (history o rs).value.2 + 1) := by
      rw [List.map_cons, handedOut, List.range'_succ]
      rfl
    have increasing : (List.range' 1 (swaps (history o rs).value.2 + 1)).Pairwise (· < ·) :=
      List.pairwise_lt_range'
    rw [← consecutive, List.pairwise_map] at increasing
    exact increasing.imp fun h => UInt64.lt_iff_toNat_lt.mpr h
  · intro i c held later url
    have later_held : (history o (rs ++ later)).value.1.held[i]? = some c := by
      obtain ⟨new, grown⟩ := held_run (history o rs).value.1 later
      obtain ⟨inside, _⟩ := List.getElem?_eq_some_iff.mp held
      rw [history_append, ← grown, List.getElem?_append_left inside]
      exact held
    exact ⟨later_held, routeHeld_reply later_held url⟩

theorem handled {s : Session} {n : Nat} (h : s.Counted n) (r : Request)
    (room : n + swaps [(s.step r).value.2] < 2 ^ 53) :
    Handled s r (s.step r).value.1 (s.step r).value.2 (s.step r).metrics := by
  constructor
  case swapped =>
    intro c hc
    obtain ⟨value, updates⟩ := step_of_replacement hc
    have after := (h.step r room).1.generation
    have one : swaps [(s.step r).value.2] = 1 := by
      rw [value]
      rfl
    refine ⟨?_, ?_, ?_, ?_, Binary64.whole_ofUInt64 (by omega)⟩
    · rw [UInt64.lt_iff_toNat_lt, h.generation, after, one]
      omega
    · rw [value]
      rfl
    · rw [value]
      rfl
    · rw [updates, value]
      rfl
  case kept =>
    intro hr
    obtain ⟨live, _, silent, updates⟩ := step_of_no_replacement hr
    exact ⟨live, silent, updates⟩
  case failed =>
    rintro place e rfl load
    simp only [step, Live.reload, load, Except.map]
    exact ⟨rfl, rfl, rfl⟩
  case holding =>
    rintro rfl
    rfl
  case restored =>
    rintro i c rfl held
    have restores : s.replacement? (.restoreHeld i) = some c := held
    rw [(step_of_replacement restores).1]
    rfl

/-- However a session begins and whatever the requests are, as long as the swaps are fewer than
`2 ^ 53`: after each of the requests the generation is one more than the number of swaps so far and
the gauge shows it, no generation comes twice, held snapshots stay, and the request did to the live
snapshot and to the gauge what it should. -/
theorem history_settled (o : Live.Origin) (rs : List Request)
    (short : swaps (history o rs).value.2 < 2 ^ 53) :
    (∀ before, before <+: rs → Settled o before) ∧
    (∀ before r, before ++ [r] <+: rs → ∃ reply updates,
      (history o (before ++ [r])).value.2 = (history o before).value.2 ++ [reply] ∧
      (history o (before ++ [r])).metrics = (history o before).metrics ++ updates ∧
      Handled (history o before).value.1 r (history o (before ++ [r])).value.1 reply updates) := by
  have fewer : ∀ before, before <+: rs → swaps (history o before).value.2 < 2 ^ 53 := by
    rintro before ⟨later, rfl⟩
    rw [history_append, swaps_append] at short
    omega
  refine ⟨fun before h => settled (fewer before h), ?_⟩
  intro before r h
  have one := history_append o before [r]
  have room := fewer (before ++ [r]) h
  rw [one, swaps_append] at room
  have counted := (history_counted (fewer before ((List.prefix_append _ _).trans h))).1
  refine ⟨((history o before).value.1.step r).value.2, ((history o before).value.1.step r).metrics,
    congrArg Prod.snd one, history_concat_metrics o before r, ?_⟩
  rw [one]
  exact handled counted r room

/-- A reload that fails and a restored snapshot: two swaps after the first generation. -/
theorem history_settled_restore :
    swaps (history .unset
      [.hold, .apply (.object []), .reload .vacant, .restoreHeld 0]).value.2 < 2 ^ 53 ∧
    (history .unset
      [.hold, .apply (.object []), .reload .vacant, .restoreHeld 0]).value.1.live.generation.toNat
        = 3 := by
  have short : swaps (history .unset
      [.hold, .apply (.object []), .reload .vacant, .restoreHeld 0]).value.2 < 2 ^ 53 := by decide
  have settled := (history_settled .unset _ short).1 _ (List.prefix_refl _)
  exact ⟨short, settled.generation.trans (by decide)⟩

end Session

end Egress
