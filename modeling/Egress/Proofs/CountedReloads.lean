import Mathlib.Data.List.Forall2
import Egress.Proofs.DaemonFigures

/-!
# Reloads and their count

After its start the daemon tries to load the payload again for two reasons: its watcher was told of
a change, or a signal has asked for it. The attempts of the watcher are counted, each once and by
its result; those that a signal has asked for are not, be they successful or not. So the count of
reloads falls short of the attempts by the number of the latter.
-/

namespace Egress

/-- An attempt to load the payload again, with what was at its path then. -/
inductive Attempt where
  | noticed (place : Place)
  | signalled (place : Place)
  deriving Repr, DecidableEq

namespace Attempt

def place : Attempt → Place
  | noticed place => place
  | signalled place => place

/-- Whether the attempt was the watcher's. -/
def isNoticed : Attempt → Bool
  | noticed _ => true
  | signalled _ => false

end Attempt

def reloadCounts (updates : List Metric) : List Metric :=
  updates.filter fun m => m.name == "proxy_router_reloads_total"

theorem reloadCounts_append (xs ys : List Metric) :
    reloadCounts (xs ++ ys) = reloadCounts xs ++ reloadCounts ys :=
  List.filter_append xs ys

/-- An update that counts an attempt: by one, and under its result. -/
structure CountsReload (m : Metric) (a : Attempt) : Prop where
  name : m.name = "proxy_router_reloads_total"
  once : m.value = 1
  result : m.labels = [("result", if (Payload.load a.place).isOk then "ok" else "error")]

theorem Payload.isSome_snapshot? (place : Place) :
    (Payload.snapshot? place).isSome = (Payload.load place).isOk := by
  unfold Payload.snapshot?
  cases Payload.load place <;> rfl

namespace Daemon

/-- The attempt that a step makes, if the daemon is in a state to make it. -/
def attempt? (d : Daemon) : Step → Option Attempt
  | .look => if d.notices = 0 then none else some (.noticed d.content)
  | .reload => if d.stage = .serving ∧ d.reloads ≠ 0 then some (.signalled d.content) else none
  | _ => none

def attempts (d : Daemon) : List Step → List Attempt
  | [] => []
  | s :: rest => (d.attempt? s).toList ++ (d.step s).value.1.attempts rest

theorem noticed_of_apart {d : Daemon} {s : Step} (apart : s = .look → d.notices = 0) :
    (d.attempt? s).toList.filter Attempt.isNoticed = [] := by
  cases s with
  | look =>
    simp only [attempt?, apart rfl, if_true]
    rfl
  | reload =>
    simp only [attempt?]
    split <;> rfl
  | _ => rfl

/-- The attempt of a step is counted if it is the watcher's, and nothing else is. -/
theorem reloads_step (d : Daemon) (s : Step) :
    List.Forall₂ CountsReload (reloadCounts (d.step s).metrics)
      ((d.attempt? s).toList.filter Attempt.isNoticed) := by
  have updates := d.updates_step s
  generalize (d.step s).metrics = metrics at updates
  cases updates with
  | looked told =>
    have attempt : d.attempt? .look = some (.noticed d.content) := by
      simp only [attempt?, told, if_false]
    rw [attempt]
    refine .cons ⟨rfl, rfl, ?_⟩ .nil
    rw [← Payload.isSome_snapshot?]
    rfl
  | swapped apart =>
    rw [noticed_of_apart fun same => absurd same apart]
    exact .nil
  | answered apart _ decisions =>
    have none : reloadCounts metrics = [] := by
      rw [reloadCounts, List.filter_eq_nil_iff]
      intro m mem
      obtain ⟨r, rfl⟩ := decisions m mem
      simp [Metric.name]
    rw [noticed_of_apart apart, none]
    exact .nil

theorem reloads_run (d : Daemon) (steps : List Step) :
    List.Forall₂ CountsReload (reloadCounts (d.run steps).metrics)
      ((d.attempts steps).filter Attempt.isNoticed) := by
  induction steps generalizing d with
  | nil => exact .nil
  | cons s rest ih =>
    rw [run_cons_metrics, reloadCounts_append, attempts, List.filter_append]
    exact List.rel_append (d.reloads_step s) (ih (d.step s).value.1)

/-- Whatever happens to a daemon from its beginning: the updates that count reloads are those of the
attempts of its watcher, in order, each counted once and by its result. An attempt that a signal has
asked for is not counted, so that all attempts are counted exactly if there is none of these. -/
theorem reloads_count_noticed (content : Place) (steps : List Step) :
    List.Forall₂ CountsReload (reloadCounts (run { content := content } steps).metrics)
      ((attempts { content := content } steps).filter Attempt.isNoticed) ∧
    (attempts { content := content } steps).length =
      (reloadCounts (run { content := content } steps).metrics).length +
        (attempts { content := content } steps).countP (fun a => !a.isNoticed) ∧
    (List.Forall₂ CountsReload (reloadCounts (run { content := content } steps).metrics)
        (attempts { content := content } steps) ↔
      ∀ a ∈ attempts { content := content } steps, a.isNoticed = true) := by
  have counted := reloads_run { content := content } steps
  generalize attempts { content := content } steps = made at counted
  have total : made.length = (made.filter Attempt.isNoticed).length +
      made.countP (fun a => !a.isNoticed) := by
    rw [← List.countP_eq_length_filter, List.length_eq_countP_add_countP Attempt.isNoticed]
    simp
  refine ⟨counted, ?_, ?_⟩
  · rw [counted.length_eq]
    exact total
  · constructor
    · intro all a mem
      have same := all.length_eq
      rw [counted.length_eq] at same
      have none : made.countP (fun a => !a.isNoticed) = 0 := by omega
      simpa using List.countP_eq_zero.mp none a mem
    · intro noticed
      rwa [List.filter_eq_self.mpr noticed] at counted

/-- A signal has the daemon load a payload that is not there. -/
def signalledReload : List Step :=
  [.load, .skipWatch, .signal .hangup, .handle .hangup, .reload]

/-- The attempt fails and is not counted. -/
theorem signalled_reload_uncounted :
    attempts { content := .vacant } signalledReload = [.signalled .vacant] ∧
      (Payload.load .vacant).isOk = false ∧
      reloadCounts (run { content := .vacant } signalledReload).metrics = [] := by
  decide +kernel

end Daemon

end Egress
