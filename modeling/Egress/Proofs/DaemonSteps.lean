import Egress.Daemon.Basic

/-!
# Steps and runs of the daemon

Whatever step a run takes, the daemon makes one of a few moves, or none if the step is not possible.
The moves say all that a step does to the state and what it answers, so that nothing else has to
look into the functions of the daemon. Events and counts are left aside here.
-/

namespace Egress

def Payload.snapshot? (place : Place) : Option Config :=
  (Payload.load place).toOption.map Traced.value

def Live.replaced (l : Live) (c : Config) : Live :=
  ⟨c.stamped (l.last + 1), l.last + 1⟩

theorem Watcher.reload_value (place : Place) :
    (Watcher.reload place).value = Payload.snapshot? place := by
  unfold Watcher.reload Payload.snapshot?
  cases Payload.load place <;> rfl

namespace Daemon

theorem load_value (d : Daemon) :
    d.load.value =
      ({ d with
          stage := .loaded
          live := d.live.replaced
            ((Payload.snapshot? d.content).getD (Payload.hydrate .null).value) }, none) := by
  unfold load Payload.snapshot?
  cases Payload.load d.content <;> rfl

/-- A daemon at its beginning loads its payload, or null in its stead. -/
theorem step_load_value (content : Place) :
    (step { content := content } .load).value.1 =
      { ({ content := content } : Daemon) with
        stage := .loaded
        live := Live.vacant.replaced
          ((Payload.snapshot? content).getD (Payload.hydrate .null).value) } := by
  show (load { content := content }).value.1 = _
  rw [load_value]

theorem watch_value (d : Daemon) (result : Option WatchError) :
    (d.watch result).value = (d.serve result.isNone, none) := by
  cases result <;> rfl

theorem look_value (d : Daemon) :
    d.look.value =
      ({ d with
          notices := d.notices - 1
          updates := d.updates ++ (Payload.snapshot? d.content).toList }, none) := by
  rw [← Watcher.reload_value]
  rfl

theorem reload_value (d : Daemon) :
    d.reload.value =
      ({ d with
          reloads := d.reloads - 1
          lines := d.lines.interrupt
          live := (Payload.snapshot? d.content).elim d.live d.live.replaced }, none) := by
  unfold reload Live.reload Payload.snapshot?
  cases Payload.load d.content <;> rfl

theorem update_value_cons {d : Daemon} {c : Config} {rest : List Config}
    (queued : d.updates = c :: rest) :
    d.update.value =
      ({ d with
          updates := rest
          live := d.live.replaced c
          lines := d.lines.interrupt }, none) := by
  simp only [update, queued]
  rfl

theorem read_value_pending {d : Daemon} {lines : Lines} (pending : d.lines.read = (lines, none)) :
    d.read.value = ({ d with lines := lines }, none) := by
  simp only [read, pending]
  rfl

theorem read_value_over {d : Daemon} {lines : Lines} {taken : Nat}
    (finished : d.lines.read = (lines, some taken)) :
    d.read.value =
      ({ d with
          stage := if taken = 0 then .ended else d.stage
          lines := lines.clear }, (d.live.answer lines.partialLine).value) := by
  simp only [read, finished, Traced.value_bind]
  by_cases none : taken = 0
  · simp only [none, if_true]
    rfl
  · simp only [none, if_false]
    rfl

/-- Whether a step is taken by somebody else than the daemon and its watcher. -/
def Step.isForeign : Step → Bool
  | .replace .. => true
  | .remove => true
  | .arrive _ => true
  | .close => true
  | _ => false

/-- The moves that a step can be, with the daemon after it and its answer. -/
inductive Move (d : Daemon) : Step → Daemon → Option String → Prop where
  | replaced (content : Place) (more : Nat) :
      Move d (.replace content more)
        { d with
          content := content
          notices := d.notices + if d.watching then more + 1 else 0 } none
  | removed : Move d .remove { d with content := .vacant } none
  | arrived (piece : List UInt8) :
      Move d (.arrive piece) { d with lines := d.lines.arrive piece } none
  | closed : Move d .close { d with lines := d.lines.close } none
  | loaded (fresh : d.stage = .fresh) :
      Move d .load
        { d with
          stage := .loaded
          live := d.live.replaced
            ((Payload.snapshot? d.content).getD (Payload.hydrate .null).value) } none
  | watched (result : Option WatchError) (loaded : d.stage = .loaded) :
      Move d (.watch result) (d.serve result.isNone) none
  | unwatched (loaded : d.stage = .loaded) : Move d .skipWatch (d.serve false) none
  | looked (told : d.notices ≠ 0) :
      Move d .look
        { d with
          notices := d.notices - 1
          updates := d.updates ++ (Payload.snapshot? d.content).toList } none
  | signalled (s : Signal) (serving : d.stage = .serving) :
      Move d (.signal s) { d with handler := d.handler.deliver s } none
  | listened (serving : d.stage = .serving) :
      Move d .listen { d with handler := d.handler.listen } none
  | askedReload {s : Signal} {handler : SignalHandler} (serving : d.stage = .serving)
      (taken : d.handler.take s = (handler, some .reload)) :
      Move d (.handle s) { d with handler := handler, reloads := d.reloads + 1 } none
  | askedShutdown {s : Signal} {handler : SignalHandler} (serving : d.stage = .serving)
      (taken : d.handler.take s = (handler, some .shutdown)) :
      Move d (.handle s) { d with handler := handler, shutdown := d.shutdown.trigger.value } none
  | updated {c : Config} {rest : List Config} (serving : d.stage = .serving)
      (queued : d.updates = c :: rest) :
      Move d .update
        { d with updates := rest, live := d.live.replaced c, lines := d.lines.interrupt } none
  | reloaded (serving : d.stage = .serving) (asked : d.reloads ≠ 0) :
      Move d .reload
        { d with
          reloads := d.reloads - 1
          lines := d.lines.interrupt
          live := (Payload.snapshot? d.content).elim d.live d.live.replaced } none
  | readOn {lines : Lines} (serving : d.stage = .serving)
      (pending : d.lines.read = (lines, none)) : Move d .read { d with lines := lines } none
  | answered {lines : Lines} {taken : Nat} (serving : d.stage = .serving)
      (finished : d.lines.read = (lines, some taken)) :
      Move d .read
        { d with stage := if taken = 0 then .ended else d.stage, lines := lines.clear }
        (d.live.answer lines.partialLine).value
  | stopped (serving : d.stage = .serving)
      (announced : (d.shutdown.receive 0).2 = some .message) :
      Move d .stop { d with stage := .ended, shutdown := (d.shutdown.receive 0).1 } none
  | wentOn (serving : d.stage = .serving)
      (silent : (d.shutdown.receive 0).2 ≠ some .message) :
      Move d .stop { d with shutdown := (d.shutdown.receive 0).1 } none
  /-- The step is not possible. -/
  | idle {s : Step} (own : s.isForeign = false) : Move d s d none

theorem step_of_serving {d : Daemon} (serving : d.stage = .serving) {s : Step}
    (own : s.isForeign = false) (other : s ≠ .look) : d.step s = d.serviceStep s := by
  cases s with
  | replace | remove | arrive | close => cases own
  | look => exact absurd rfl other
  | _ => simp only [step, serving]

theorem move_look (d : Daemon) : Move d .look (d.step .look).value.1 (d.step .look).value.2 := by
  by_cases told : d.notices = 0
  · simp only [step, told, if_true]
    exact .idle rfl
  · simp only [step, told, if_false, look_value]
    exact .looked told

theorem move_read {d : Daemon} (serving : d.stage = .serving) :
    Move d .read d.read.value.1 d.read.value.2 := by
  cases result : d.lines.read with
  | mk lines taken =>
    cases taken with
    | none =>
      rw [read_value_pending result]
      exact .readOn serving result
    | some taken =>
      rw [read_value_over result]
      exact .answered serving result

theorem move_stop {d : Daemon} (serving : d.stage = .serving) :
    Move d .stop d.stop.value.1 d.stop.value.2 := by
  by_cases announced : (d.shutdown.receive 0).2 = some .message
  · simp only [stop, announced, if_true]
    exact .stopped serving announced
  · simp only [stop, announced, if_false]
    exact .wentOn serving announced

theorem move_handle {d : Daemon} (serving : d.stage = .serving) (s : Signal) :
    Move d (.handle s) (d.serviceStep (.handle s)).value.1
      (d.serviceStep (.handle s)).value.2 := by
  cases taken : d.handler.take s with
  | mk handler demand =>
    cases demand with
    | none =>
      simp only [serviceStep, taken]
      exact .idle rfl
    | some demand =>
      simp only [serviceStep, taken]
      cases demand with
      | reload => exact .askedReload serving taken
      | shutdown => exact .askedShutdown serving taken

/-- What a serving daemon does is a move. -/
theorem move_service {d : Daemon} (serving : d.stage = .serving) {s : Step}
    (own : s.isForeign = false) :
    Move d s (d.serviceStep s).value.1 (d.serviceStep s).value.2 := by
  cases s with
  | replace | remove | arrive | close => cases own
  | load | watch | skipWatch | look => exact .idle rfl
  | signal s => exact .signalled s serving
  | listen => exact .listened serving
  | handle s => exact move_handle serving s
  | update =>
    cases queued : d.updates with
    | nil =>
      simp only [serviceStep, update, queued]
      exact .idle rfl
    | cons c rest =>
      simp only [serviceStep, update_value_cons queued]
      exact .updated serving queued
  | reload =>
    by_cases asked : d.reloads = 0
    · simp only [serviceStep, asked, if_true]
      exact .idle rfl
    · simp only [serviceStep, asked, if_false, reload_value]
      exact .reloaded serving asked
  | read => exact move_read serving
  | stop => exact move_stop serving

/-- Every step is a move. -/
theorem move_step (d : Daemon) (s : Step) : Move d s (d.step s).value.1 (d.step s).value.2 := by
  by_cases own : s.isForeign = false
  · by_cases look : s = .look
    · rw [look]
      exact d.move_look
    · cases stage : d.stage with
      | serving =>
        rw [step_of_serving stage own look]
        exact move_service stage own
      | fresh =>
        cases s with
        | replace | remove | arrive | close => cases own
        | look => exact absurd rfl look
        | load =>
          simp only [step, stage, load_value]
          exact .loaded stage
        | _ =>
          simp only [step, stage]
          exact .idle rfl
      | loaded =>
        cases s with
        | replace | remove | arrive | close => cases own
        | look => exact absurd rfl look
        | watch result =>
          simp only [step, stage, watch_value]
          exact .watched result stage
        | skipWatch =>
          simp only [step, stage]
          exact .unwatched stage
        | _ =>
          simp only [step, stage]
          exact .idle rfl
      | ended =>
        cases s with
        | replace | remove | arrive | close => cases own
        | look => exact absurd rfl look
        | _ =>
          simp only [step, stage]
          exact .idle rfl
  · cases s with
    | replace content more => exact .replaced content more
    | remove => exact .removed
    | arrive piece => exact .arrived piece
    | close => exact .closed
    | _ => exact absurd rfl own

/-- A daemon that has begun to serve serves on until it ends. -/
theorem Move.late {d d' : Daemon} {s : Step} {answer : Option String} (move : Move d s d' answer)
    (late : d.stage = .serving ∨ d.stage = .ended) : d'.stage = .serving ∨ d'.stage = .ended := by
  cases move with
  | loaded early | watched _ early | unwatched early => simp [early] at late
  | answered serving =>
    show (if _ then Stage.ended else d.stage) = .serving ∨
      (if _ then Stage.ended else d.stage) = .ended
    split
    · exact Or.inr rfl
    · exact Or.inl serving
  | stopped => exact Or.inr rfl
  | _ => exact late

def history (content : Place) (steps : List Step) : Daemon × List String :=
  (Daemon.run { content := content } steps).value

theorem run_cons_value (d : Daemon) (s : Step) (rest : List Step) :
    (d.run (s :: rest)).value =
      (((d.step s).value.1.run rest).value.1,
        (d.step s).value.2.toList ++ ((d.step s).value.1.run rest).value.2) := rfl

theorem run_append_value (d : Daemon) (xs ys : List Step) :
    (d.run (xs ++ ys)).value =
      (((d.run xs).value.1.run ys).value.1,
        (d.run xs).value.2 ++ ((d.run xs).value.1.run ys).value.2) :=
  Traced.run_append_value _ _ d xs ys

/-- One more step. -/
theorem run_concat_value (d : Daemon) (steps : List Step) (s : Step) :
    (d.run (steps ++ [s])).value =
      (((d.run steps).value.1.step s).value.1,
        (d.run steps).value.2 ++ ((d.run steps).value.1.step s).value.2.toList) := by
  rw [run_append_value, run_cons_value]
  simp [run, Traced.run_nil]

theorem history_concat (content : Place) (steps : List Step) (s : Step) :
    history content (steps ++ [s]) =
      (((history content steps).1.step s).value.1,
        (history content steps).2 ++ ((history content steps).1.step s).value.2.toList) :=
  run_concat_value _ steps s

end Daemon

end Egress
