import Mathlib.Data.List.Induction
import Egress.Proofs.DaemonFigures
import Egress.Proofs.InForce

/-!
# The live snapshot follows the payload

Snapshots that the watcher has passed on may be out of date when the daemon takes them, and a reload
that a signal has asked for may overtake them. Still, the last one in the queue was loaded from the
file as it is now, once the watcher has looked at all that it was told of. So as soon as nothing is
under way the live snapshot is that of the file, whatever the order in which all this has happened.
As long as the file stays as it is, every load gives the same snapshot, and no order matters at all.

Nothing is said about a file that cannot be loaded: then the live snapshot is an older one.
-/

namespace Egress.Daemon

/-- Whether a step changes what the path of the payload leads to. -/
def Step.isChange : Step → Bool
  | .replace .. => true
  | .remove => true
  | _ => false

/-! ## A payload that stays as it is -/

/-- A daemon on a payload that nobody changes, with the snapshot of that payload. -/
structure Steady (place : Place) (c : Config) (d : Daemon) : Prop where
  place : d.content = place
  queued : ∀ u ∈ d.updates, u = c
  live : d.stage = .fresh ∨ d.live.Holds c

section

variable {place : Place} {c : Config} {d d' : Daemon} {s : Step} {answer : Option String}

theorem Steady.holds (h : Steady place c d) (begun : d.stage ≠ .fresh) : d.live.Holds c :=
  h.live.resolve_left begun

theorem Steady.snapshot? (h : Steady place c d) (loaded : Payload.snapshot? place = some c) :
    Payload.snapshot? d.content = some c := by
  rw [h.place, loaded]

/-- Every load gives the same snapshot, so it does not matter when it is taken. -/
theorem Steady.move (h : Steady place c d) (loaded : Payload.snapshot? place = some c)
    (move : Move d s d' answer) (unchanged : s.isChange = false) : Steady place c d' := by
  have here := h.snapshot? loaded
  cases move with
  | replaced | removed => cases unchanged
  | loaded =>
    refine { h with live := Or.inr ?_ }
    rw [here, Option.getD_some]
    exact d.live.holds_replaced c
  | watched _ early | unwatched early =>
    exact { h with live := Or.inr (h.holds (by simp [early])) }
  | looked =>
    refine { h with queued := ?_ }
    rw [here, Option.toList_some]
    intro u mem
    rcases List.mem_append.mp mem with before | last
    · exact h.queued u before
    · exact List.mem_singleton.mp last
  | @updated first rest _ queued =>
    obtain rfl : first = c := h.queued first (by simp [queued])
    exact { h with
      queued := fun u mem => h.queued u (by simp [queued, mem])
      live := Or.inr (d.live.holds_replaced first) }
  | reloaded =>
    refine { h with live := Or.inr ?_ }
    rw [here, Option.elim_some]
    exact d.live.holds_replaced c
  | answered serving | stopped serving =>
    exact { h with live := Or.inr (h.holds (by simp [serving])) }
  | _ => exact { h with }

theorem Steady.run (h : Steady place c d) (loaded : Payload.snapshot? place = some c)
    {steps : List Step} (unchanged : ∀ s ∈ steps, s.isChange = false) :
    Steady place c (d.run steps).value.1 :=
  Traced.run_invariant _ _
    (fun s mem d' before => before.move loaded (move_step d' s) (unchanged s mem)) h

end

/-! ## A payload that changes -/

/-- The snapshot that is live when all that waits in the queue is taken: the last one in the queue,
or else the one that is live already. -/
def Heads (d : Daemon) (c : Config) : Prop :=
  d.updates.getLast?.elim (d.live.Holds c) (· = c)

/-- The watcher has been told of the file as it is now, and if it has looked at it, the daemon is
heading for its snapshot. -/
def IsFollowing (d : Daemon) : Prop :=
  d.notices = 0 → ∀ c, Payload.snapshot? d.content = some c → d.Heads c

theorem heads_of_loaded {d : Daemon} {c : Config} (loaded : Payload.snapshot? d.content = some c) :
    Heads { d with
      notices := d.notices - 1
      updates := d.updates ++ (Payload.snapshot? d.content).toList } c := by
  rw [Heads, loaded, Option.toList_some, List.getLast?_concat]
  rfl

/-- Taking the first snapshot of the queue leads where the queue was leading. -/
theorem Heads.update {d : Daemon} {first c : Config} {rest : List Config}
    (queued : d.updates = first :: rest) (heads : d.Heads c) (lines : Lines) :
    Heads { d with updates := rest, live := d.live.replaced first, lines := lines } c := by
  rw [Heads, queued] at heads
  cases rest with
  | nil =>
    obtain rfl : first = c := heads
    exact d.live.holds_replaced first
  | cons second rest =>
    rw [List.getLast?_cons_cons] at heads
    cases last : (second :: rest).getLast? with
    | none => simp at last
    | some u =>
      rw [last] at heads
      simp only [Heads, last]
      exact heads

/-- A reload out of turn gives the snapshot of the file, to which the queue leads as well. -/
theorem Heads.reload {d : Daemon} {c : Config} (heads : d.Heads c) (lines : Lines) :
    Heads { d with
      reloads := d.reloads - 1
      lines := lines
      live := d.live.replaced c } c := by
  rw [Heads] at heads ⊢
  cases last : d.updates.getLast? with
  | none => exact d.live.holds_replaced c
  | some u =>
    rw [last] at heads
    exact heads

section

variable {d d' : Daemon} {s : Step} {answer : Option String}

theorem isFollowing_of_change (move : Move d s d' answer) (change : s.isChange = true)
    (watching : d.watching = true) : d'.IsFollowing := by
  cases move with
  | replaced content more =>
    intro quiet
    have told : d.notices + (if d.watching then more + 1 else 0) = 0 := quiet
    rw [if_pos watching] at told
    omega
  | removed =>
    intro _ c loaded
    cases loaded
  | idle own => cases s <;> cases change <;> cases own
  | _ => cases change

/-- The watch that was begun goes on. -/
structure IsWatching (d : Daemon) : Prop where
  watching : d.watching = true
  begun : d.stage = .serving ∨ d.stage = .ended

theorem IsWatching.late (h : IsWatching d) : d.stage ≠ .fresh ∧ d.stage ≠ .loaded := by
  rcases h.begun with begun | begun
  · simp [begun]
  · simp [begun]

theorem IsWatching.move (h : IsWatching d) (move : Move d s d' answer) : IsWatching d' := by
  refine ⟨?_, move.late h.begun⟩
  cases move with
  | loaded early => exact absurd early h.late.1
  | watched _ early | unwatched early => exact absurd early h.late.2
  | _ => exact h.watching

/-- A watch begins when the daemon begins to serve. -/
theorem isWatching_of_move (move : Move d s d' answer) (begins : d.watching = true → IsWatching d)
    (watching : d'.watching = true) : IsWatching d' := by
  cases before : d.watching with
  | true => exact (begins before).move move
  | false =>
    cases move with
    | watched => exact ⟨watching, Or.inl rfl⟩
    | unwatched => exact ⟨watching, Or.inl rfl⟩
    | _ => exact absurd (before.symm.trans watching) Bool.false_ne_true

/-- Whatever the daemon and its watcher do, and whatever happens to the file, they go on following
it. -/
theorem IsFollowing.move (following : d.IsFollowing) (h : IsWatching d)
    (move : Move d s d' answer) : d'.IsFollowing := by
  by_cases change : s.isChange = true
  · exact isFollowing_of_change move change h.watching
  · cases move with
    | replaced | removed => exact absurd rfl change
    | loaded early => exact absurd early h.late.1
    | watched _ early | unwatched early => exact absurd early h.late.2
    | looked told =>
      intro _ c loaded
      exact heads_of_loaded loaded
    | updated _ queued =>
      intro quiet c loaded
      exact (following quiet c loaded).update queued _
    | reloaded _ asked =>
      intro quiet c loaded
      have heads := (following quiet c loaded).reload d.lines.interrupt
      have here : Payload.snapshot? d.content = some c := loaded
      simp only [here, Option.elim_some]
      exact heads
    | _ => exact following

end

theorem isWatching_history {content : Place} {steps : List Step}
    (watching : (history content steps).1.watching = true) :
    IsWatching (history content steps).1 := by
  induction steps using List.reverseRecOn with
  | nil => cases watching
  | append_singleton steps s ih =>
    rw [history_concat] at watching ⊢
    exact isWatching_of_move (move_step _ s) ih watching

/-- From the first change on that the watcher is told of, the daemon follows the file. -/
theorem isFollowing_run {d : Daemon} (h : IsWatching d) {steps : List Step}
    (changed : ∃ s ∈ steps, s.isChange = true) :
    IsWatching (d.run steps).value.1 ∧ (d.run steps).value.1.IsFollowing := by
  have watches : ∀ steps, IsWatching (d.run steps).value.1 := fun steps =>
    Traced.run_invariant _ _ (fun s _ d' watching => watching.move (move_step d' s)) h
  refine ⟨watches steps, ?_⟩
  induction steps using List.reverseRecOn with
  | nil => simp at changed
  | append_singleton steps s ih =>
    have move := move_step (d.run steps).value.1 s
    rw [run_concat_value]
    by_cases change : s.isChange = true
    · exact isFollowing_of_change move change (watches steps).watching
    · obtain ⟨s', mem, change'⟩ := changed
      rcases List.mem_append.mp mem with before | last
      · exact (ih ⟨s', before, change'⟩).move (watches steps) move
      · rw [List.mem_singleton.mp last] at change'
        exact absurd change' change

/-! ## The generation on the way -/

/-- The number of snapshots that were made live, as the published generations tell. -/
def swaps (content : Place) (steps : List Step) : Nat :=
  ((run { content := content } steps).metrics.filterMap Metric.generation?).length

/-- The generation is the number of swaps, as a word. -/
structure IsNumbered (l : Live) (n : Nat) : Prop where
  last : l.last = UInt64.ofNat n
  live : l.generation = l.last

theorem published_of_decisions {updates : List Metric}
    (decisions : ∀ m ∈ updates, ∃ r, m = .decision r) :
    updates.filterMap Metric.generation? = [] := by
  rw [List.filterMap_eq_nil_iff]
  intro m mem
  obtain ⟨r, rfl⟩ := decisions m mem
  rfl

theorem Updates.isNumbered {d : Daemon} {s : Step} {updates : List Metric} {n : Nat}
    (updating : Updates d s updates) (h : IsNumbered d.live n) :
    IsNumbered (d.step s).value.1.live
      (n + (updates.filterMap Metric.generation?).length) := by
  cases updating with
  | looked told =>
    have live : (d.step .look).value.1.live = d.live := by
      simp only [step, told, if_false, look_value]
    rw [live]
    exact h
  | swapped apart live =>
    rw [live]
    refine ⟨?_, rfl⟩
    show d.live.last + 1 = UInt64.ofNat (n + 1)
    rw [h.last, UInt64.ofNat_add]
    rfl
  | answered apart live decisions =>
    rw [live, published_of_decisions decisions]
    exact h

theorem swaps_concat (content : Place) (steps : List Step) (s : Step) :
    swaps content (steps ++ [s]) = swaps content steps +
      (((history content steps).1.step s).metrics.filterMap Metric.generation?).length := by
  rw [swaps, run_append_metrics, List.filterMap_append, List.length_append, run_cons_metrics]
  simp [swaps, history, run, Traced.run_nil]

theorem isNumbered_history (content : Place) (steps : List Step) :
    IsNumbered (history content steps).1.live (swaps content steps) := by
  induction steps using List.reverseRecOn with
  | nil => exact ⟨rfl, rfl⟩
  | append_singleton steps s ih =>
    rw [swaps_concat, history_concat]
    exact (updates_step _ s).isNumbered ih

theorem swaps_mono (content : Place) {before steps : List Step} (inside : before <+: steps) :
    swaps content before ≤ swaps content steps := by
  obtain ⟨later, rfl⟩ := inside
  rw [swaps, swaps, run_append_metrics, List.filterMap_append, List.length_append]
  exact Nat.le_add_right _ _

theorem generation_mono {content : Place} {before steps : List Step} (inside : before <+: steps)
    (few : swaps content steps < 2 ^ 64) :
    (history content before).1.live.generation ≤ (history content steps).1.live.generation := by
  have fewer := swaps_mono content inside
  have early := isNumbered_history content before
  have late := isNumbered_history content steps
  rw [early.live, early.last, late.live, late.last, UInt64.le_iff_toNat_le, UInt64.toNat_ofNat',
    UInt64.toNat_ofNat', Nat.mod_eq_of_lt (by omega), Nat.mod_eq_of_lt few]
  exact fewer

/-- Once the watcher runs, and in whatever order the file changes, the watcher looks, signals ask
for reloads and the daemon takes what is queued: after a change, whenever the watcher has looked at
all it was told of and the queue is empty, the live snapshot is that of the file, if the file can be
loaded. On the way every snapshot gets the generation that follows the one before it, as a word of
64 bits, so that the generation never falls as long as that counter does not run over. -/
theorem live_follows_payload {content : Place} {start : List Step}
    (watching : (history content start).1.watching = true) (later : List Step) :
    ((∃ s ∈ later, s.isChange = true) → (history content (start ++ later)).1.notices = 0 →
      (history content (start ++ later)).1.updates = [] →
        ∀ c, Payload.snapshot? (history content (start ++ later)).1.content = some c →
          (history content (start ++ later)).1.live.Holds c) ∧
    ∀ before after, before <+: after → after <+: start ++ later →
      swaps content before ≤ swaps content after ∧
        (history content after).1.live.generation = UInt64.ofNat (swaps content after) ∧
        (swaps content after < 2 ^ 64 →
          (history content before).1.live.generation ≤
            (history content after).1.live.generation) := by
  constructor
  · intro changed noticed taken c loaded
    have same : (history content (start ++ later)).1 =
        ((history content start).1.run later).value.1 := by
      rw [history, run_append_value, ← history]
    rw [same] at noticed taken loaded ⊢
    have heads := (isFollowing_run (isWatching_history watching) changed).2 noticed c loaded
    rw [Heads, taken] at heads
    exact heads
  · intro before after inside _
    have numbered := isNumbered_history content after
    exact ⟨swaps_mono content inside, numbered.live.trans numbered.last, generation_mono inside⟩

/-- A payload is replaced twice, and a signal has the second one loaded while the snapshot of the
first one is still in the queue. -/
def overtakingReload : List Step :=
  [.replace (.file (Text.Utf8.encode "[]")) 0, .look,
    .replace (.file (Payload.fileBytes proxiedPayload)) 0,
    .signal .hangup, .handle .hangup, .reload, .update, .look, .update]

theorem live_follows_payload_overtaken :
    (history .vacant [.load, .watch none]).1.watching = true ∧
      (∃ s ∈ overtakingReload, s.isChange = true) ∧
      (history .vacant ([.load, .watch none] ++ overtakingReload)).1.live.Holds
        (Payload.hydrate proxiedPayload).value ∧
      (history .vacant [.load, .watch none]).1.live.generation ≤
        (history .vacant ([.load, .watch none] ++ overtakingReload)).1.live.generation := by
  have watching : (history .vacant [.load, .watch none]).1.watching = true := by decide
  have changed : ∃ s ∈ overtakingReload, s.isChange = true := ⟨_, List.mem_cons_self, rfl⟩
  have follows := live_follows_payload watching overtakingReload
  have grows := follows.2 _ _ (List.prefix_append _ _) (List.prefix_refl _)
  refine ⟨watching, changed, follows.1 changed ?_ ?_ _ ?_, grows.2.2 ?_⟩
  · decide +kernel
  · decide +kernel
  · decide +kernel
  · decide +kernel

end Egress.Daemon
