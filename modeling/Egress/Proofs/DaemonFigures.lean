import Egress.Proofs.DaemonSteps
import Egress.Proofs.Generations
import Egress.Proofs.Watching

/-!
# The figures of the daemon

What a step of the daemon adds to the figures, whatever the step is. A look of the watcher is
counted as a reload, a snapshot that is made live has its generation published, and an answer may be
counted as a decision. Nothing else touches a figure; a reload that a signal has asked for publishes
the generation of the new snapshot, if there is one, and is not counted itself.
-/

namespace Egress

/-- An answer counts decisions and nothing else. -/
theorem Live.answer_metrics (l : Live) (line : List UInt8) :
    ∀ m ∈ (l.answer line).metrics, ∃ r, m = .decision r := by
  unfold Live.answer
  split
  · simp only
    split
    · intro m mem
      cases mem
    · intro m mem
      rw [Traced.metrics_map, Live.route, Config.route_metrics] at mem
      exact ⟨_, List.mem_singleton.mp mem⟩
  · intro m mem
    cases mem

namespace Daemon

theorem load_metrics (d : Daemon) : d.load.metrics = [.generation (d.live.last + 1)] := by
  unfold load
  cases loaded : Payload.load d.content with
  | error e =>
    simp only [Traced.metrics_bind, Live.apply, Payload.metrics_hydrate]
    rfl
  | ok c =>
    simp only [Traced.metrics_bind, Session.metrics_load loaded]
    rfl

theorem look_metrics (d : Daemon) :
    d.look.metrics = [.reload (Payload.snapshot? d.content).isSome] := by
  rw [look, Traced.metrics_bind, Watcher.reload_metrics]
  rfl

theorem reload_metrics (d : Daemon) :
    d.reload.metrics =
      if (Payload.snapshot? d.content).isSome then [.generation (d.live.last + 1)] else [] := by
  unfold reload Live.reload Payload.snapshot?
  cases loaded : Payload.load d.content with
  | error e => rfl
  | ok c =>
    simp only [Except.map, Traced.metrics_bind, Session.metrics_load loaded]
    rfl

theorem meet_metrics (d : Daemon) (handler : SignalHandler) (demand : Demand) :
    (d.meet handler demand).metrics = [] := by
  cases demand with
  | reload => rfl
  | shutdown =>
    simp only [meet, Traced.metrics_bind, Shutdown.trigger]
    split <;> rfl

theorem stop_metrics (d : Daemon) : d.stop.metrics = [] := by
  simp only [stop]
  split <;> rfl

theorem watch_metrics (d : Daemon) (result : Option WatchError) :
    (d.watch result).metrics = [] := by
  cases result <;> rfl

theorem read_metrics (d : Daemon) : ∀ m ∈ d.read.metrics, ∃ r, m = .decision r := by
  cases result : d.lines.read with
  | mk lines taken =>
    cases taken with
    | none =>
      simp only [read, result]
      intro m mem
      cases mem
    | some taken =>
      have answered : d.read.metrics = (d.live.answer lines.partialLine).metrics := by
        simp only [read, result, Traced.metrics_bind]
        split <;> simp
      rw [answered]
      exact d.live.answer_metrics lines.partialLine

/-- What a step adds to the figures, with what becomes of the live snapshot. -/
inductive Updates (d : Daemon) : Step → List Metric → Prop where
  /-- A look of the watcher is counted by its result. -/
  | looked (told : d.notices ≠ 0) : Updates d .look [.reload (Payload.snapshot? d.content).isSome]
  /-- A snapshot is made live, and its generation is published. -/
  | swapped {s : Step} {c : Config} (apart : s ≠ .look)
      (live : (d.step s).value.1.live = d.live.replaced c) :
      Updates d s [.generation (d.live.last + 1)]
  /-- All else counts decisions at most. -/
  | answered {s : Step} {updates : List Metric} (apart : s = .look → d.notices = 0)
      (live : (d.step s).value.1.live = d.live)
      (decisions : ∀ m ∈ updates, ∃ r, m = .decision r) : Updates d s updates

namespace Updates

variable {d : Daemon} {s : Step}

theorem silent (apart : s = .look → d.notices = 0) (live : (d.step s).value.1.live = d.live) :
    Updates d s [] :=
  .answered apart live (fun _ mem => by cases mem)

/-- A step that is not possible adds nothing. -/
theorem idle (apart : s = .look → d.notices = 0) (impossible : d.step s = pure (d, none)) :
    Updates d s (d.step s).metrics := by
  have live : (d.step s).value.1.live = d.live := by
    rw [impossible]
    rfl
  rw [impossible]
  exact .silent apart live

end Updates

theorem updates_look (d : Daemon) : Updates d .look (d.step .look).metrics := by
  by_cases told : d.notices = 0
  · exact .idle (fun _ => told) (by simp only [step, told, if_true])
  · have looks : d.step .look = d.look := by simp only [step, told, if_false]
    rw [looks, look_metrics]
    exact .looked told

/-! ## The serving daemon -/

section

variable {d : Daemon}

theorem updates_handle {signal : Signal}
    (steps : d.step (.handle signal) = d.serviceStep (.handle signal)) :
    Updates d (.handle signal) (d.step (.handle signal)).metrics := by
  cases taken : d.handler.take signal with
  | mk handler demand =>
    cases demand with
    | none =>
      refine .idle (by simp) ?_
      rw [steps]
      simp only [serviceStep, taken]
    | some demand =>
      have meets : d.step (.handle signal) = d.meet handler demand := by
        rw [steps]
        simp only [serviceStep, taken]
      have live : (d.step (.handle signal)).value.1.live = d.live := by
        rw [meets]
        cases demand <;> rfl
      rw [meets, meet_metrics]
      exact .silent (by simp) live

theorem updates_update (steps : d.step .update = d.serviceStep .update) :
    Updates d .update (d.step .update).metrics := by
  cases queued : d.updates with
  | nil =>
    refine .idle (by simp) ?_
    rw [steps]
    simp only [serviceStep, update, queued]
  | cons c rest =>
    have figures : (d.serviceStep .update).metrics = [.generation (d.live.last + 1)] := by
      simp only [serviceStep, update, queued]
      rfl
    have live : (d.step .update).value.1.live = d.live.replaced c := by
      rw [steps]
      simp only [serviceStep, update_value_cons queued]
    rw [steps, figures]
    exact .swapped (by simp) live

theorem updates_reload (steps : d.step .reload = d.serviceStep .reload) :
    Updates d .reload (d.step .reload).metrics := by
  by_cases asked : d.reloads = 0
  · refine .idle (by simp) ?_
    rw [steps]
    simp only [serviceStep, asked, if_true]
  · have reloads : d.step .reload = d.reload := by
      rw [steps]
      simp only [serviceStep, asked, if_false]
    have live : (d.step .reload).value.1.live =
        (Payload.snapshot? d.content).elim d.live d.live.replaced := by
      rw [reloads, reload_value]
    rw [reloads, reload_metrics]
    cases loaded : Payload.snapshot? d.content with
    | none =>
      rw [loaded] at live
      exact .silent (by simp) live
    | some c =>
      rw [loaded] at live
      exact .swapped (by simp) live

theorem updates_read (reads : d.step .read = d.read) : Updates d .read (d.step .read).metrics := by
  have live : (d.step .read).value.1.live = d.live := by
    rw [reads]
    cases result : d.lines.read with
    | mk lines taken =>
      cases taken with
      | none => rw [read_value_pending result]
      | some taken => rw [read_value_over result]
  rw [reads]
  exact .answered (by simp) live d.read_metrics

theorem updates_stop (stops : d.step .stop = d.stop) : Updates d .stop (d.step .stop).metrics := by
  have live : (d.step .stop).value.1.live = d.live := by
    rw [stops]
    by_cases announced : (d.shutdown.receive 0).2 = some .message
    · simp only [stop, announced, if_true]
      rfl
    · simp only [stop, announced, if_false]
      rfl
  rw [stops, stop_metrics]
  exact .silent (by simp) live

theorem updates_service (serving : d.stage = .serving) {s : Step} (own : s.isForeign = false)
    (other : s ≠ .look) : Updates d s (d.step s).metrics := by
  have steps := step_of_serving serving own other
  cases s with
  | replace | remove | arrive | close => cases own
  | look => exact absurd rfl other
  | load | watch | skipWatch => exact .idle (by simp) steps
  | signal | listen =>
    rw [steps]
    exact .silent (by simp) (by rw [steps]; rfl)
  | handle signal => exact updates_handle steps
  | update => exact updates_update steps
  | reload => exact updates_reload steps
  | read => exact updates_read steps
  | stop => exact updates_stop steps

end

/-! ## Every step -/

theorem updates_load {d : Daemon} (loads : d.step .load = d.load) :
    Updates d .load (d.step .load).metrics := by
  have live : (d.step .load).value.1.live = d.live.replaced
      ((Payload.snapshot? d.content).getD (Payload.hydrate .null).value) := by
    rw [loads, load_value]
  rw [loads, load_metrics]
  exact .swapped (by simp) live

theorem updates_watch {d : Daemon} {result : Option WatchError}
    (watches : d.step (.watch result) = d.watch result) :
    Updates d (.watch result) (d.step (.watch result)).metrics := by
  have live : (d.step (.watch result)).value.1.live = d.live := by
    rw [watches, watch_value]
    rfl
  rw [watches, watch_metrics]
  exact .silent (by simp) live

/-- What any step adds to the figures. -/
theorem updates_step (d : Daemon) (s : Step) : Updates d s (d.step s).metrics := by
  by_cases look : s = .look
  · rw [look]
    exact d.updates_look
  · have apart : s = .look → d.notices = 0 := fun same => absurd same look
    by_cases own : s.isForeign = false
    · cases stage : d.stage with
      | serving => exact updates_service stage own look
      | fresh =>
        cases s with
        | replace | remove | arrive | close => cases own
        | look => exact absurd rfl look
        | load => exact updates_load (by simp only [step, stage])
        | _ => exact .idle apart (by simp only [step, stage])
      | loaded =>
        cases s with
        | replace | remove | arrive | close => cases own
        | look => exact absurd rfl look
        | watch result => exact updates_watch (by simp only [step, stage])
        | skipWatch =>
          have serves : d.step .skipWatch = pure (d.serve false, none) := by simp only [step, stage]
          rw [serves]
          exact .silent apart (by rw [serves]; rfl)
        | _ => exact .idle apart (by simp only [step, stage])
      | ended =>
        cases s with
        | replace | remove | arrive | close => cases own
        | look => exact absurd rfl look
        | _ => exact .idle apart (by simp only [step, stage])
    · cases s with
      | replace | remove | arrive | close => exact .silent apart rfl
      | _ => exact absurd rfl own

theorem run_cons_metrics (d : Daemon) (s : Step) (rest : List Step) :
    (d.run (s :: rest)).metrics = (d.step s).metrics ++ ((d.step s).value.1.run rest).metrics :=
  Traced.run_cons_metrics _ _ d s rest

theorem run_append_metrics (d : Daemon) (xs ys : List Step) :
    (d.run (xs ++ ys)).metrics = (d.run xs).metrics ++ ((d.run xs).value.1.run ys).metrics :=
  Traced.run_append_metrics _ _ d xs ys

end Daemon

end Egress
