import Egress.Proofs.Convergence
import Egress.Proofs.CountedReloads

/-!
# A payload that is replaced while the daemon starts

The daemon first loads its payload and then starts to watch it. A replacement before the load is
loaded, and the watcher is told of one that comes when it is there. Between the two there is a gap:
what comes into place then is neither loaded nor told of. It stays out of force until a signal asks
for a reload, unless it gives the snapshot that is live anyway.

Only the last change of the payload counts. Those before it may fall anywhere.
-/

namespace Egress.Daemon

/-- A run from the beginning in which the last change of the payload is a replacement. -/
structure LastReplacement where
  /-- What the path of the payload leads to at the beginning. -/
  content : Place
  before : List Step
  /-- What takes its place in the end. -/
  place : Place
  /-- How often the watcher is told of it beyond once, if it is there. -/
  more : Nat
  after : List Step
  unchanged : ∀ s ∈ after, s.isChange = false

namespace LastReplacement

def met (r : LastReplacement) : Daemon :=
  (history r.content r.before).1

def replaced (r : LastReplacement) : Daemon :=
  (r.met.step (.replace r.place r.more)).value.1

def final (r : LastReplacement) : Daemon :=
  (history r.content (r.before ++ .replace r.place r.more :: r.after)).1

/-- The attempts to load the payload again that follow the replacement. -/
def attempts (r : LastReplacement) : List Attempt :=
  r.replaced.attempts r.after

theorem final_eq (r : LastReplacement) :
    r.final = (r.met.run (.replace r.place r.more :: r.after)).value.1 := by
  rw [final, history, run_append_value]
  rfl

theorem final_eq_run_after (r : LastReplacement) : r.final = (r.replaced.run r.after).value.1 := by
  rw [final_eq, run_cons_value]
  rfl

end LastReplacement

/-- Nothing is left that the watcher was told of or has passed on. -/
structure CaughtUp (d : Daemon) : Prop where
  notices : d.notices = 0
  updates : d.updates = []

/-- The watcher is not there, and has left nothing. -/
structure Unwatched (d : Daemon) : Prop extends CaughtUp d where
  watching : d.watching = false

section

variable {d d' : Daemon} {s : Step} {answer : Option String} {c : Config}

theorem CaughtUp.not_queued (h : d.CaughtUp) (first : Config) (rest : List Config) :
    d.updates ≠ first :: rest := by
  simp [h.updates]

/-- Nobody is told of a replacement while there is no watcher. -/
theorem Unwatched.replace (h : d.Unwatched) (place : Place) (more : Nat) :
    (d.step (.replace place more)).value.1.Unwatched := by
  refine ⟨⟨?_, h.updates⟩, h.watching⟩
  show d.notices + (if d.watching then more + 1 else 0) = 0
  rw [h.notices, h.watching]
  rfl

/-! ## The moves of the daemon -/

theorem Move.content_eq (move : Move d s d' answer) (unchanged : s.isChange = false) :
    d'.content = d.content := by
  cases move with
  | replaced | removed => cases unchanged
  | _ => rfl

theorem Move.begun (move : Move d s d' answer) (begun : d.stage ≠ .fresh) : d'.stage ≠ .fresh := by
  cases move with
  | loaded | watched | unwatched | stopped => exact fun fresh => by cases fresh
  | answered =>
    show (if _ then Stage.ended else d.stage) ≠ .fresh
    split
    · exact fun fresh => by cases fresh
    · exact begun
  | _ => exact begun

theorem Move.watching_eq (move : Move d s d' answer)
    (late : d.stage = .serving ∨ d.stage = .ended) : d'.watching = d.watching := by
  cases move with
  | watched _ early | unwatched early => simp [early] at late
  | _ => rfl

theorem CaughtUp.move (h : d.CaughtUp) (move : Move d s d' answer)
    (unchanged : s.isChange = false) : d'.CaughtUp := by
  cases move with
  | replaced | removed => cases unchanged
  | looked told => exact absurd h.notices told
  | updated _ queued => exact absurd queued (h.not_queued _ _)
  | _ => exact ⟨h.notices, h.updates⟩

/-- As long as the daemon has not begun to serve, no change is told of. -/
theorem Unwatched.move (before : ¬ (d.stage = .serving ∨ d.stage = .ended) → d.Unwatched)
    (move : Move d s d' answer) (early : ¬ (d'.stage = .serving ∨ d'.stage = .ended)) :
    d'.Unwatched := by
  have h := before fun late => early (move.late late)
  cases move with
  | replaced content more => exact h.replace content more
  | watched | unwatched => exact absurd (Or.inl rfl) early
  | looked told => exact absurd h.notices told
  | updated _ queued => exact absurd queued (h.not_queued _ _)
  | _ => exact ⟨⟨h.notices, h.updates⟩, h.watching⟩

/-- If nothing is left to be taken, only a reload changes the live snapshot after the first load. -/
theorem Move.live_eq (move : Move d s d' answer) (h : d.CaughtUp) (begun : d.stage ≠ .fresh)
    (other : s ≠ .reload) : d'.live = d.live := by
  cases move with
  | loaded fresh => exact absurd fresh begun
  | updated _ queued => exact absurd queued (h.not_queued _ _)
  | reloaded => exact absurd rfl other
  | _ => rfl

theorem CaughtUp.attempt?_eq_none (h : d.CaughtUp) (other : s ≠ .reload) : d.attempt? s = none := by
  cases s with
  | look => simp only [attempt?, h.notices, if_true]
  | reload => exact absurd rfl other
  | _ => rfl

/-- A reload that is asked for makes the snapshot of the payload live, and one that is not does
nothing. -/
theorem holds_step_reload (loaded : Payload.snapshot? d.content = some c) :
    (d.step .reload).value.1.live.Holds c ↔ d.live.Holds c ∨ d.attempt? .reload ≠ none := by
  by_cases asked : d.stage = .serving ∧ d.reloads ≠ 0
  · have holds : (d.step .reload).value.1.live.Holds c := by
      rw [step_of_serving asked.1 rfl (by simp)]
      simp only [serviceStep, asked.2, if_false, reload_value, loaded, Option.elim_some]
      exact d.live.holds_replaced c
    simp [attempt?, asked, holds]
  · have idle : d.step .reload = pure (d, none) := by
      cases stage : d.stage with
      | serving =>
        have none : d.reloads = 0 := by_contra fun some => asked ⟨stage, some⟩
        simp only [step, stage, serviceStep, none, if_true]
      | _ => simp only [step, stage]
    simp [attempt?, asked, idle]

/-- What is in force after a step, if the watcher has no part in it. -/
theorem CaughtUp.holds_step (h : d.CaughtUp) (loaded : Payload.snapshot? d.content = some c)
    (begun : d.stage ≠ .fresh) (s : Step) :
    (d.step s).value.1.live.Holds c ↔ d.live.Holds c ∨ d.attempt? s ≠ none := by
  by_cases reload : s = .reload
  · rw [reload]
    exact holds_step_reload loaded
  · rw [(move_step d s).live_eq h begun reload, h.attempt?_eq_none reload]
    simp

end

/-! ## Runs -/

theorem unwatched_history (content : Place) (steps : List Step)
    (early : ¬ ((history content steps).1.stage = .serving ∨
      (history content steps).1.stage = .ended)) : (history content steps).1.Unwatched := by
  induction steps using List.reverseRecOn with
  | nil => exact ⟨⟨rfl, rfl⟩, rfl⟩
  | append_singleton steps s ih =>
    rw [history_concat] at early ⊢
    exact Unwatched.move ih (move_step _ s) early

section

variable {d : Daemon} {c : Config} {steps : List Step}

theorem content_run (unchanged : ∀ s ∈ steps, s.isChange = false) :
    (d.run steps).value.1.content = d.content :=
  Traced.run_invariant _ _ (P := fun d' => d'.content = d.content)
    (fun s mem d' same => ((move_step d' s).content_eq (unchanged s mem)).trans same) rfl

theorem watching_run (late : d.stage = .serving ∨ d.stage = .ended) :
    (d.run steps).value.1.watching = d.watching := by
  have kept : ((d.run steps).value.1.stage = .serving ∨ (d.run steps).value.1.stage = .ended) ∧
      (d.run steps).value.1.watching = d.watching :=
    Traced.run_invariant _ _
      (P := fun d' => (d'.stage = .serving ∨ d'.stage = .ended) ∧ d'.watching = d.watching)
      (fun s _ d' before => ⟨(move_step d' s).late before.1,
        ((move_step d' s).watching_eq before.1).trans before.2⟩) ⟨late, rfl⟩
  exact kept.2

/-- Without any part of the watcher, the snapshot of the payload is in force if it was before or if
a signal has had it loaded. -/
theorem CaughtUp.holds_run (h : d.CaughtUp) (loaded : Payload.snapshot? d.content = some c)
    (begun : d.stage ≠ .fresh) (unchanged : ∀ s ∈ steps, s.isChange = false) :
    (d.run steps).value.1.live.Holds c ↔ d.live.Holds c ∨ d.attempts steps ≠ [] := by
  induction steps generalizing d with
  | nil => simp [run, Traced.run_nil, Daemon.attempts]
  | cons s rest ih =>
    have move := move_step d s
    have here := unchanged s List.mem_cons_self
    have loaded' : Payload.snapshot? (d.step s).value.1.content = some c := by
      rw [move.content_eq here, loaded]
    have later := ih (h.move move here) loaded' (move.begun begun) fun s' mem =>
      unchanged s' (List.mem_cons_of_mem s mem)
    rw [run_cons_value, later, h.holds_step loaded begun s, Daemon.attempts, or_assoc]
    simp [imp_iff_not_or]

/-- A serving daemon and its watcher can always catch up, by themselves. -/
theorem exists_caughtUp (serving : d.stage = .serving) :
    ∃ work : List Step, (∀ s ∈ work, s = .look ∨ s = .update) ∧
      (d.run work).value.1.CaughtUp := by
  induction left : d.toDo using Nat.strong_induction_on generalizing d with
  | h n ih =>
    subst left
    by_cases told : d.notices = 0
    · cases queued : d.updates with
      | nil => exact ⟨[], by simp, told, queued⟩
      | cons first rest =>
        have stage : (d.step .update).value.1.stage = .serving := by
          rw [step_of_serving serving rfl (by simp)]
          simp only [serviceStep, update_value_cons queued, serving]
        obtain ⟨work, own, done⟩ := ih _ (toDo_update serving queued) stage rfl
        exact ⟨.update :: work, by simpa using own, done⟩
    · have stage : (d.step .look).value.1.stage = .serving := by
        simp only [step, told, if_false, look_value, serving]
      obtain ⟨work, own, done⟩ := ih _ (toDo_look told) stage rfl
      exact ⟨.look :: work, by simpa using own, done⟩

end

/-! ## The three parts of the start -/

namespace LastReplacement

variable (r : LastReplacement) {c : Config}

theorem unwatched_met (early : ¬ (r.met.stage = .serving ∨ r.met.stage = .ended)) :
    r.met.Unwatched :=
  unwatched_history r.content r.before early

theorem unwatched_final (early : ¬ (r.final.stage = .serving ∨ r.final.stage = .ended)) :
    r.final.Unwatched :=
  unwatched_history r.content _ early

/-- A replacement before the first load is loaded. -/
theorem holds_of_fresh (loaded : Payload.snapshot? r.place = some c)
    (watching : r.final.watching = true) (fresh : r.met.stage = .fresh) : r.final.live.Holds c := by
  have unwatched := r.unwatched_met (by simp [fresh])
  have steady : Steady r.place c r.replaced := by
    refine ⟨rfl, ?_, Or.inl fresh⟩
    intro u mem
    have waiting : u ∈ r.met.updates := mem
    rw [unwatched.updates] at waiting
    cases waiting
  have last := steady.run loaded r.unchanged
  rw [← final_eq_run_after] at last
  apply last.holds
  intro still
  have unwatched := r.unwatched_final (by simp [still])
  exact Bool.false_ne_true (unwatched.watching.symm.trans watching)

/-- A replacement in the gap comes into force by a reload only, or not at all. -/
theorem holds_iff_of_loaded (loaded : Payload.snapshot? r.place = some c)
    (gap : r.met.stage = .loaded) :
    r.final.live.Holds c ↔ r.met.live.Holds c ∨ r.attempts ≠ [] := by
  have unwatched := (r.unwatched_met (by simp [gap])).replace r.place r.more
  have begun : r.replaced.stage ≠ .fresh := by
    show r.met.stage ≠ .fresh
    simp [gap]
  rw [final_eq_run_after]
  exact unwatched.toCaughtUp.holds_run loaded begun r.unchanged

/-- The watcher is told of a replacement once it is there. -/
theorem holds_of_late (loaded : Payload.snapshot? r.place = some c)
    (watching : r.final.watching = true) (caught : r.final.CaughtUp)
    (late : r.met.stage = .serving ∨ r.met.stage = .ended) : r.final.live.Holds c := by
  rw [final_eq] at watching caught ⊢
  have there : r.met.watching = true := (watching_run late).symm.trans watching
  have changed : ∃ s ∈ Step.replace r.place r.more :: r.after, s.isChange = true :=
    ⟨_, List.mem_cons_self, rfl⟩
  have following := (isFollowing_run ⟨there, late⟩ changed).2
  have content : (r.met.run (.replace r.place r.more :: r.after)).value.1.content = r.place := by
    rw [run_cons_value]
    exact content_run r.unchanged
  have heads := following caught.notices c (by rw [content, loaded])
  rw [Heads, caught.updates] at heads
  exact heads

end LastReplacement

/-- When the payload has been replaced for the last time by one that loads, wherever in the course
of the start or after it, and the watcher works in the end and has nothing left to look at or to
pass on, the live snapshot is that of the payload, unless it was replaced between the first load and
the start of the watcher. Then it is so exactly if the snapshot that was live is the same, or a
reload was tried since. A daemon that serves can always come to the point where nothing is left. -/
theorem replacement_in_force_iff (r : LastReplacement) {c : Config}
    (loaded : Payload.snapshot? r.place = some c) (watching : r.final.watching = true) :
    (r.final.CaughtUp →
      (r.final.live.Holds c ↔
        (r.met.stage = .loaded → r.met.live.Holds c ∨ r.attempts ≠ []))) ∧
    (r.final.stage = .serving → ∃ work : List Step, (∀ s ∈ work, s = .look ∨ s = .update) ∧
      (r.final.run work).value.1.CaughtUp) := by
  refine ⟨?_, exists_caughtUp⟩
  intro caught
  cases stage : r.met.stage with
  | fresh => simp [r.holds_of_fresh loaded watching stage]
  | loaded => simpa using r.holds_iff_of_loaded loaded stage
  | serving => simp [r.holds_of_late loaded watching caught (Or.inl stage)]
  | ended => simp [r.holds_of_late loaded watching caught (Or.inr stage)]

/-- A payload that is replaced in the gap. -/
def replacedInGap (after : List Step) (unchanged : ∀ s ∈ after, s.isChange = false) :
    LastReplacement where
  content := .file (Text.Utf8.encode "[]")
  before := [.load]
  place := .file (Payload.fileBytes proxiedPayload)
  more := 0
  after := after
  unchanged := unchanged

theorem snapshot?_replacedInGap (after : List Step) (unchanged : ∀ s ∈ after, s.isChange = false) :
    Payload.snapshot? (replacedInGap after unchanged).place =
      some (Payload.hydrate proxiedPayload).value := by
  show Payload.snapshot? (.file (Payload.fileBytes proxiedPayload)) = _
  decide +kernel

/-- A signal has the new payload loaded. -/
def signalledReplacement : LastReplacement :=
  replacedInGap [.watch none, .signal .hangup, .handle .hangup, .reload] (by decide)

theorem replacement_in_force_iff_signalled :
    Payload.snapshot? signalledReplacement.place = some (Payload.hydrate proxiedPayload).value ∧
      signalledReplacement.final.watching = true ∧ signalledReplacement.final.CaughtUp ∧
      signalledReplacement.final.live.Holds (Payload.hydrate proxiedPayload).value := by
  have loaded : Payload.snapshot? signalledReplacement.place =
      some (Payload.hydrate proxiedPayload).value := snapshot?_replacedInGap _ _
  have watching : signalledReplacement.final.watching = true := by decide +kernel
  have caught : signalledReplacement.final.CaughtUp := ⟨by decide +kernel, by decide +kernel⟩
  refine ⟨loaded, watching, caught, ?_⟩
  rw [(replacement_in_force_iff signalledReplacement loaded watching).1 caught]
  intro _
  exact Or.inr (by decide +kernel)

/-- Nothing but the start of the watcher follows. -/
def lostReplacement : LastReplacement :=
  replacedInGap [.watch none] (by decide)

/-- The daemon serves, its watcher works and nothing is left to be done, and still the new payload
is not in force. -/
theorem replacement_lost_in_gap :
    Payload.snapshot? lostReplacement.place = some (Payload.hydrate proxiedPayload).value ∧
      lostReplacement.final.stage = .serving ∧ lostReplacement.final.watching = true ∧
      lostReplacement.final.CaughtUp ∧
      ¬ lostReplacement.final.live.Holds (Payload.hydrate proxiedPayload).value := by
  refine ⟨snapshot?_replacedInGap _ _, by decide +kernel, by decide +kernel,
    ⟨by decide +kernel, by decide +kernel⟩, ?_⟩
  rintro ⟨g, same⟩
  have enabled : (Payload.hydrate proxiedPayload).value.enabled = true := by decide +kernel
  have disabled : lostReplacement.final.live.current.enabled = false := by decide +kernel
  rw [same] at disabled
  exact Bool.false_ne_true (disabled.symm.trans enabled)

end Egress.Daemon
