import Egress.Event
import Egress.Metric

/-!
# Results with what was reported on the way

A computation of this program gives a value together with the events and the metric updates it
caused, in order. Sequencing appends them, so that a report can be neither lost nor made twice.
-/

namespace Egress

/-- A value with the events and metric updates that led to it. -/
structure Traced (α : Type) where
  value : α
  events : List Event
  metrics : List Metric
  deriving Repr

namespace Traced

variable {α β : Type}

def report (e : Event) : Traced Unit := ⟨(), [e], []⟩

def record (m : Metric) : Traced Unit := ⟨(), [], [m]⟩

instance : Monad Traced where
  pure a := ⟨a, [], []⟩
  bind x f :=
    let y := f x.value
    ⟨y.value, x.events ++ y.events, x.metrics ++ y.metrics⟩

@[simp] theorem value_pure (a : α) : (pure a : Traced α).value = a := rfl

@[simp] theorem events_pure (a : α) : (pure a : Traced α).events = [] := rfl

@[simp] theorem metrics_pure (a : α) : (pure a : Traced α).metrics = [] := rfl

@[simp] theorem value_bind (x : Traced α) (f : α → Traced β) :
    (x >>= f).value = (f x.value).value := rfl

@[simp] theorem events_bind (x : Traced α) (f : α → Traced β) :
    (x >>= f).events = x.events ++ (f x.value).events := rfl

@[simp] theorem metrics_bind (x : Traced α) (f : α → Traced β) :
    (x >>= f).metrics = x.metrics ++ (f x.value).metrics := rfl

@[simp] theorem value_map (f : α → β) (x : Traced α) : (f <$> x).value = f x.value := rfl

@[simp] theorem events_map (f : α → β) (x : Traced α) : (f <$> x).events = x.events :=
  List.append_nil _

@[simp] theorem metrics_map (f : α → β) (x : Traced α) : (f <$> x).metrics = x.metrics :=
  List.append_nil _

@[simp] theorem events_report (e : Event) : (report e).events = [e] := rfl

@[simp] theorem metrics_report (e : Event) : (report e).metrics = [] := rfl

@[simp] theorem events_record (m : Metric) : (record m).events = [] := rfl

@[simp] theorem metrics_record (m : Metric) : (record m).metrics = [m] := rfl

/-- The reports of a list of computations, with the list of their values. -/
def all : List (Traced α) → Traced (List α)
  | [] => pure []
  | x :: xs => do
    let a ← x
    let as ← all xs
    return a :: as

/-! ## Runs

A run takes a step for each of its inputs, from the state that the step before has left. What a step
gives besides a state is turned into results, and these are put together in order.
-/

section Run

variable {State Input Output Result : Type} (results : Output → List Result)
  (step : State → Input → Traced (State × Output))

def run (s : State) : List Input → Traced (State × List Result)
  | [] => pure (s, [])
  | i :: rest => do
    let (s, output) ← step s i
    let (s, later) ← run s rest
    return (s, results output ++ later)

theorem run_nil (s : State) : run results step s [] = pure (s, []) := rfl

theorem run_cons_value (s : State) (i : Input) (rest : List Input) :
    (run results step s (i :: rest)).value =
      ((run results step (step s i).value.1 rest).value.1,
        results (step s i).value.2 ++ (run results step (step s i).value.1 rest).value.2) := rfl

theorem run_cons_metrics (s : State) (i : Input) (rest : List Input) :
    (run results step s (i :: rest)).metrics =
      (step s i).metrics ++ (run results step (step s i).value.1 rest).metrics := by
  simp [run]

/-- A run is continued from the state that it has come to. -/
theorem run_append_value (s : State) (xs ys : List Input) :
    (run results step s (xs ++ ys)).value =
      ((run results step (run results step s xs).value.1 ys).value.1,
        (run results step s xs).value.2 ++
          (run results step (run results step s xs).value.1 ys).value.2) := by
  induction xs generalizing s with
  | nil => rfl
  | cons x xs ih => rw [List.cons_append, run_cons_value, ih, run_cons_value, List.append_assoc]

theorem run_append_metrics (s : State) (xs ys : List Input) :
    (run results step s (xs ++ ys)).metrics =
      (run results step s xs).metrics ++
        (run results step (run results step s xs).value.1 ys).metrics := by
  induction xs generalizing s with
  | nil => rfl
  | cons x xs ih =>
    rw [List.cons_append, run_cons_metrics, ih, run_cons_metrics, List.append_assoc, run_cons_value]

/-- What every step keeps, a run keeps. -/
theorem run_invariant {P : State → Prop} {inputs : List Input}
    (kept : ∀ i ∈ inputs, ∀ s, P s → P (step s i).value.1) {s : State} (holds : P s) :
    P (run results step s inputs).value.1 := by
  induction inputs generalizing s with
  | nil => exact holds
  | cons i rest ih =>
    rw [run_cons_value]
    exact ih (fun j mem => kept j (List.mem_cons_of_mem i mem)) (kept i List.mem_cons_self s holds)

end Run

end Traced

end Egress
