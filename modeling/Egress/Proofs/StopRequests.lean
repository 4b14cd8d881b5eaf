import Mathlib.Data.List.Induction
import Egress.Proofs.DaemonSteps

/-!
# What becomes of requests to stop

A signal that asks for shutdown should reach the main loop: it waits for the handler, or its
announcement waits for the loop, or the loop has ended. There are three mishaps after which it does
not. The signal may come between two rounds, when the handler does not listen. A hangup that came
with it may be taken first, and the round ends with the other signal forgotten. And the handler may
announce the shutdown before the main loop has subscribed to it. As long as none of them happens no
request is lost. After one of them it is, unless another signal has come in the meantime.

The handler works from the moment when it listens for the first time, and the main loop subscribes
on its own and at any time after that. The runs of the daemon, in which it does both at once, are
among these. The handler is taken to listen to all three signals at the same moment.
-/

namespace Egress

def SignalHandler.pending : SignalHandler → List Signal
  | listening pending => pending
  | _ => []

namespace SignalHandler

variable {h h' : SignalHandler} {s s' : Signal}

theorem mem_pending_deliver (mem : s ∈ h.pending) (s' : Signal) : s ∈ (h.deliver s').pending := by
  cases h with
  | away | done => cases mem
  | listening pending =>
    show s ∈ if pending.contains s' then pending else pending ++ [s']
    split
    · exact mem
    · exact List.mem_append_left _ mem

/-- What waits after a delivery has waited before, or is what was delivered. -/
theorem mem_pending_of_deliver (mem : s ∈ (h.deliver s').pending) : s ∈ h.pending ∨ s = s' := by
  cases h with
  | away | done => cases mem
  | listening pending =>
    have mem : s ∈ if pending.contains s' then pending else pending ++ [s'] := mem
    split at mem
    · exact Or.inl mem
    · exact (List.mem_append.mp mem).imp_right List.mem_singleton.mp

theorem mem_pending_deliver_self (pending : List Signal) (s : Signal) :
    s ∈ ((listening pending).deliver s).pending := by
  show s ∈ if pending.contains s then pending else pending ++ [s]
  split
  · next old => exact List.contains_iff_mem.mp old
  · exact List.mem_append_right _ (List.mem_singleton_self s)

theorem deliver_eq_done_iff : h.deliver s = done ↔ h = done := by
  cases h <;> simp [deliver]

theorem mem_pending_listen : s ∈ h.listen.pending ↔ s ∈ h.pending := by
  cases h <;> simp [listen, pending]

theorem listen_eq_done_iff : h.listen = done ↔ h = done := by
  cases h <;> simp [listen]

/-- A signal that is taken has waited, and ends the round. -/
theorem of_take {demand : Demand} (taken : h.take s = (h', some demand)) :
    s ∈ h.pending ∧ s.demand = demand ∧ h' = if demand = .reload then away else done := by
  cases h with
  | away | done => cases taken
  | listening pending =>
    by_cases mem : s ∈ pending
    · cases s <;>
        · simp only [take, List.contains_iff_mem.mpr mem, if_true, Signal.demand, Prod.mk.injEq,
            Option.some.injEq] at taken
          obtain ⟨rfl, rfl⟩ := taken
          exact ⟨mem, rfl, rfl⟩
    · simp only [take, List.contains_iff_mem, mem, if_false, Prod.mk.injEq, reduceCtorEq,
        and_false] at taken

theorem ne_done_of_take {demand : Demand} (taken : h.take s = (h', some demand)) : h ≠ done := by
  rintro rfl
  cases taken

end SignalHandler

namespace Daemon

/-- What can happen from the moment when the handler of signals listens for the first time. -/
inductive Turn where
  /-- The daemon subscribes to the shutdown and enters its main loop. -/
  | enter
  | step (s : Step)
  deriving Repr, DecidableEq

def attended (d : Daemon) (watching : Bool) : Daemon :=
  { d with watching := watching, handler := d.handler.listen }

/-- The daemon that has subscribed to the shutdown, in its main loop. -/
def enter (d : Daemon) : Daemon :=
  { d with stage := .serving, shutdown := d.shutdown.subscribe }

/-- To begin to serve is to do both. -/
theorem serve_eq (d : Daemon) (watching : Bool) : d.serve watching = (d.attended watching).enter :=
  rfl

/-- A step on the way to the main loop, when the handler is at work already. -/
def earlyStep (d : Daemon) : Step → Daemon
  | .signal s => (d.serviceStep (.signal s)).value.1
  | .listen => (d.serviceStep .listen).value.1
  | .handle s => (d.serviceStep (.handle s)).value.1
  | .watch _ => d
  | .skipWatch => d
  | s => (d.step s).value.1

def turn (d : Daemon) : Turn → Daemon
  | .enter => if d.stage = .loaded then d.enter else d
  | .step s => if d.stage = .loaded then d.earlyStep s else (d.step s).value.1

/-- The daemon that has loaded a payload, when its handler listens for the first time, and then
takes turns. -/
def course (content : Place) (watching : Bool) (turns : List Turn) : Daemon :=
  turns.foldl turn ((step { content := content } .load).value.1.attended watching)

/-- Nothing waits for the handler nor for the main loop, which goes on. -/
structure IsQuiet (d : Daemon) : Prop where
  serving : d.stage = .serving
  nothingPending : d.handler.pending = []
  silent : (d.shutdown.receive 0).2 ≠ some .message

/-- A signal that asks for shutdown has come. -/
def IsAsked (turns : List Turn) : Prop :=
  ∃ s, .step (.signal s) ∈ turns ∧ s.demand = .shutdown

/-- A shutdown was asked for, and nothing is left of it. -/
def IsLost (content : Place) (watching : Bool) (turns : List Turn) : Prop :=
  IsAsked turns ∧ (course content watching turns).IsQuiet

/-- A turn after which a request to stop may be lost. -/
inductive Mishap (d : Daemon) : Turn → Prop where
  /-- The signal comes between two rounds of the handler. -/
  | unheard {s : Signal} (asks : s.demand = .shutdown) (away : d.handler = .away) :
      Mishap d (.step (.signal s))
  /-- A hangup is taken, and the signal that waits with it is forgotten. -/
  | dropped {s : Signal} (asks : s.demand = .shutdown) (pending : s ∈ d.handler.pending)
      (hangup : .hangup ∈ d.handler.pending) : Mishap d (.step (.handle .hangup))
  /-- The shutdown is announced before the main loop has subscribed to it. -/
  | unannounced {s : Signal} (asks : s.demand = .shutdown) (pending : s ∈ d.handler.pending)
      (early : d.stage = .loaded) : Mishap d (.step (.handle s))

def HasMishap (content : Place) (watching : Bool) (turns : List Turn) : Prop :=
  ∃ early t late, turns = early ++ t :: late ∧ (course content watching early).Mishap t

/-! ## What a turn does -/

/-- What a turn does to the handler, the shutdown and the main loop. -/
inductive Effect (d d' : Daemon) : Turn → Prop where
  | entered (early : d.stage = .loaded) (stage : d'.stage = .serving)
      (handler : d'.handler = d.handler) (shutdown : d'.shutdown = d.shutdown.subscribe) :
      Effect d d' .enter
  | delivered {s : Signal} (stage : d'.stage = d.stage) (handler : d'.handler = d.handler.deliver s)
      (shutdown : d'.shutdown = d.shutdown) : Effect d d' (.step (.signal s))
  | listened (stage : d'.stage = d.stage) (handler : d'.handler = d.handler.listen)
      (shutdown : d'.shutdown = d.shutdown) : Effect d d' (.step .listen)
  | askedReload {s : Signal} (taken : d.handler.take s = (d'.handler, some .reload))
      (stage : d'.stage = d.stage) (shutdown : d'.shutdown = d.shutdown) :
      Effect d d' (.step (.handle s))
  | askedShutdown {s : Signal} (taken : d.handler.take s = (d'.handler, some .shutdown))
      (stage : d'.stage = d.stage) (shutdown : d'.shutdown = d.shutdown.trigger.value) :
      Effect d d' (.step (.handle s))
  | wentOn (serving : d.stage = .serving) (silent : (d.shutdown.receive 0).2 ≠ some .message)
      (stage : d'.stage = .serving) (handler : d'.handler = d.handler)
      (shutdown : d'.shutdown = (d.shutdown.receive 0).1) : Effect d d' (.step .stop)
  | ended {s : Step} (other : ∀ signal, s ≠ .signal signal) (stage : d'.stage = .ended)
      (handler : d'.handler = d.handler) : Effect d d' (.step s)
  | kept {t : Turn} (other : ∀ signal, t = .step (.signal signal) → d.stage = .ended)
      (stage : d'.stage = d.stage) (handler : d'.handler = d.handler)
      (shutdown : d'.shutdown = d.shutdown) : Effect d d' t

theorem effect_handle (d : Daemon) (s : Signal) :
    Effect d (d.serviceStep (.handle s)).value.1 (.step (.handle s)) := by
  cases taken : d.handler.take s with
  | mk handler demand =>
    cases demand with
    | none =>
      simp only [serviceStep, taken]
      exact .kept (by simp) rfl rfl rfl
    | some demand =>
      simp only [serviceStep, taken]
      cases demand with
      | reload => exact .askedReload taken rfl rfl
      | shutdown => exact .askedShutdown taken rfl rfl

theorem effect_of_move {d d' : Daemon} {s : Step} {answer : Option String}
    (move : Move d s d' answer) (begun : d.stage ≠ .fresh)
    (watch : d.stage = .loaded → s ≠ .skipWatch ∧ ∀ result, s ≠ .watch result)
    (other : ∀ signal, s = .signal signal → d.stage = .ended) : Effect d d' (.step s) := by
  cases move with
  | loaded fresh => exact absurd fresh begun
  | watched result early => exact absurd rfl ((watch early).2 result)
  | unwatched early => exact absurd rfl (watch early).1
  | signalled s => exact .delivered rfl rfl rfl
  | listened => exact .listened rfl rfl rfl
  | askedReload _ taken => exact .askedReload taken rfl rfl
  | askedShutdown _ taken => exact .askedShutdown taken rfl rfl
  | answered =>
    split
    · exact .ended (by simp) rfl rfl
    · exact .kept (by simp) rfl rfl rfl
  | stopped => exact .ended (by simp) rfl rfl
  | wentOn serving silent => exact .wentOn serving silent serving rfl rfl
  | idle => exact .kept (by simpa using other) rfl rfl rfl
  | replaced | removed | arrived | closed | looked | updated | reloaded | readOn =>
    exact .kept (by simp) rfl rfl rfl

theorem effect_earlyStep {d : Daemon} (early : d.stage = .loaded) (s : Step) :
    Effect d (d.earlyStep s) (.step s) := by
  have begun : d.stage ≠ .fresh := by simp [early]
  cases s with
  | signal s => exact .delivered rfl rfl rfl
  | listen => exact .listened rfl rfl rfl
  | handle s => exact d.effect_handle s
  | watch | skipWatch => exact .kept (by simp) rfl rfl rfl
  | replace | remove | look | arrive | close | load | update | reload | read | stop =>
    exact effect_of_move (d.move_step _) begun (by simp) (by simp)

theorem effect_turn {d : Daemon} (begun : d.stage ≠ .fresh) (t : Turn) : Effect d (d.turn t) t := by
  cases t with
  | enter =>
    rw [turn]
    split
    · next early => exact .entered early rfl rfl rfl
    · exact .kept (by simp) rfl rfl rfl
  | step s =>
    rw [turn]
    split
    · next early => exact effect_earlyStep early s
    · next late =>
      by_cases delivered : d.stage = .serving ∧ ∃ signal, s = .signal signal
      · obtain ⟨serving, signal, rfl⟩ := delivered
        rw [step_of_serving serving rfl (by simp)]
        exact .delivered rfl rfl rfl
      · refine effect_of_move (d.move_step s) begun (fun early => absurd early late) ?_
        intro signal same
        cases stage : d.stage with
        | ended => rfl
        | fresh => exact absurd stage begun
        | loaded => exact absurd stage late
        | serving => exact absurd ⟨stage, signal, same⟩ delivered

/-! ## What is kept by every turn -/

/-- Something is left of a request to stop: it waits for the handler or is announced to the main
loop, or the main loop has ended. -/
inductive IsHeld (d : Daemon) : Prop where
  | pending {s : Signal} (asks : s.demand = .shutdown) (mem : s ∈ d.handler.pending) : IsHeld d
  | announced (serving : d.stage = .serving) (waits : (d.shutdown.receive 0).2 = some .message) :
      IsHeld d
  | ended (ended : d.stage = .ended) : IsHeld d

theorem IsHeld.not_isQuiet {d : Daemon} (held : IsHeld d) : ¬ d.IsQuiet := by
  intro quiet
  cases held with
  | pending _ mem =>
    rw [quiet.nothingPending] at mem
    cases mem
  | announced _ waits => exact quiet.silent waits
  | ended ended =>
    rw [quiet.serving] at ended
    cases ended

/-- The shutdown is as the daemon has made it: nobody has triggered it, and the main loop is the one
who has subscribed, if it goes on. -/
inductive IsUntriggered (d : Daemon) : Prop where
  | loaded (early : d.stage = .loaded) (fresh : d.shutdown = {}) : IsUntriggered d
  | serving (serving : d.stage = .serving) (fresh : d.shutdown = Shutdown.subscribe {}) :
      IsUntriggered d
  | ended (ended : d.stage = .ended) : IsUntriggered d

section

variable {d d' : Daemon} {t : Turn}

/-- The handler that is not done has triggered nothing. -/
theorem IsUntriggered.turn (untriggered : d.handler ≠ .done → IsUntriggered d)
    (effect : Effect d d' t) (goesOn : d'.handler ≠ .done) : IsUntriggered d' := by
  have same : d.handler ≠ .done → d'.stage = d.stage → d'.shutdown = d.shutdown →
      IsUntriggered d' := by
    intro before stage shutdown
    cases untriggered before with
    | loaded early fresh => exact .loaded (stage.trans early) (shutdown.trans fresh)
    | serving serving fresh => exact .serving (stage.trans serving) (shutdown.trans fresh)
    | ended ended => exact .ended (stage.trans ended)
  cases effect with
  | entered early stage handler shutdown =>
    rw [handler] at goesOn
    cases untriggered goesOn with
    | loaded _ fresh => exact .serving stage (by rw [shutdown, fresh])
    | serving late | ended late => simp [early] at late
  | delivered stage handler shutdown =>
    rw [handler, ne_eq, SignalHandler.deliver_eq_done_iff] at goesOn
    exact same goesOn stage shutdown
  | listened stage handler shutdown =>
    rw [handler, ne_eq, SignalHandler.listen_eq_done_iff] at goesOn
    exact same goesOn stage shutdown
  | askedReload taken stage shutdown =>
    exact same (SignalHandler.ne_done_of_take taken) stage shutdown
  | askedShutdown taken =>
    obtain ⟨_, _, done⟩ := SignalHandler.of_take taken
    exact absurd done goesOn
  | wentOn serving silent stage handler shutdown =>
    rw [handler] at goesOn
    cases untriggered goesOn with
    | serving _ fresh => exact .serving stage (by rw [shutdown, fresh]; rfl)
    | loaded early | ended early => simp [serving] at early
  | ended _ stage => exact .ended stage
  | kept _ stage handler shutdown =>
    rw [handler] at goesOn
    exact same goesOn stage shutdown

/-- A signal that waits for the handler is taken in time to be announced, unless there is a
mishap. -/
theorem isHeld_of_pending {s : Signal} (asks : s.demand = .shutdown) (mem : s ∈ d.handler.pending)
    (untriggered : d.handler ≠ .done → IsUntriggered d) (effect : Effect d d' t)
    (safe : ¬ d.Mishap t) : IsHeld d' := by
  cases effect with
  | entered _ _ handler | wentOn _ _ _ handler | kept _ _ handler =>
    exact .pending asks (handler ▸ mem)
  | delivered _ handler => exact .pending asks (handler ▸ SignalHandler.mem_pending_deliver mem _)
  | listened _ handler => exact .pending asks (handler ▸ SignalHandler.mem_pending_listen.mpr mem)
  | ended _ stage => exact .ended stage
  | @askedReload other taken =>
    obtain ⟨here, demand, _⟩ := SignalHandler.of_take taken
    cases other with
    | hangup => exact absurd (.dropped asks mem here) safe
    | terminate | interrupt => cases demand
  | askedShutdown taken stage shutdown =>
    obtain ⟨here, demand, _⟩ := SignalHandler.of_take taken
    cases untriggered (SignalHandler.ne_done_of_take taken) with
    | loaded early => exact absurd (.unannounced demand here early) safe
    | serving serving fresh => exact .announced (stage.trans serving) (by rw [shutdown, fresh]; rfl)
    | ended ended => exact .ended (stage.trans ended)

/-- An announcement waits until the main loop takes it. -/
theorem isHeld_of_announced (serving : d.stage = .serving)
    (waits : (d.shutdown.receive 0).2 = some .message)
    (untriggered : d.handler ≠ .done → IsUntriggered d) (effect : Effect d d' t) : IsHeld d' := by
  cases effect with
  | entered early => simp [serving] at early
  | delivered stage _ shutdown | listened stage _ shutdown | askedReload _ stage shutdown
  | kept _ stage _ shutdown => exact .announced (stage.trans serving) (shutdown ▸ waits)
  | wentOn _ silent => exact absurd waits silent
  | ended _ stage => exact .ended stage
  | askedShutdown taken =>
    -- a handler that still takes signals has announced nothing
    cases untriggered (SignalHandler.ne_done_of_take taken) with
    | serving _ fresh =>
      rw [fresh] at waits
      cases waits
    | loaded other | ended other => simp [serving] at other

theorem isHeld_of_ended (ended : d.stage = .ended) (effect : Effect d d' t) : IsHeld d' := by
  cases effect with
  | entered early => simp [ended] at early
  | wentOn serving => simp [ended] at serving
  | ended _ stage => exact .ended stage
  | delivered stage | listened stage | askedReload _ stage | askedShutdown _ stage
  | kept _ stage => exact .ended (stage.trans ended)

/-- What is left of a request stays, unless there is a mishap. -/
theorem IsHeld.turn (held : IsHeld d) (untriggered : d.handler ≠ .done → IsUntriggered d)
    (effect : Effect d d' t) (safe : ¬ d.Mishap t) : IsHeld d' := by
  cases held with
  | pending asks mem => exact isHeld_of_pending asks mem untriggered effect safe
  | announced serving waits => exact isHeld_of_announced serving waits untriggered effect
  | ended ended => exact isHeld_of_ended ended effect

/-- A signal that asks for shutdown is held as soon as it has come, unless nobody hears it. -/
theorem isHeld_of_signal {s : Signal} (asks : s.demand = .shutdown)
    (before : d.handler = .done → IsHeld d) (untriggered : d.handler ≠ .done → IsUntriggered d)
    (effect : Effect d d' (.step (.signal s))) (safe : ¬ d.Mishap (.step (.signal s))) :
    IsHeld d' := by
  cases handler : d.handler with
  | away => exact absurd (.unheard asks handler) safe
  | done => exact (before handler).turn untriggered effect safe
  | listening pending =>
    cases effect with
    | delivered _ after =>
      refine .pending asks ?_
      rw [after, handler]
      exact SignalHandler.mem_pending_deliver_self pending s
    | ended other => exact absurd rfl (other s)
    | kept other stage => exact .ended (stage.trans (other s rfl))

theorem begun_turn (begun : d.stage ≠ .fresh) (effect : Effect d d' t) : d'.stage ≠ .fresh := by
  cases effect with
  | entered _ stage | wentOn _ _ stage | ended _ stage => simp [stage]
  | delivered stage | listened stage | askedReload _ stage | askedShutdown _ stage
  | kept _ stage => rwa [stage]

/-- What waits has waited before, unless it has come with this turn. -/
theorem pending_turn {s : Signal} (effect : Effect d d' t) (mem : s ∈ d'.handler.pending) :
    s ∈ d.handler.pending ∨ t = .step (.signal s) := by
  cases effect with
  | entered _ _ handler | wentOn _ _ _ handler | ended _ _ handler | kept _ _ handler =>
    exact Or.inl (handler ▸ mem)
  | delivered _ handler =>
    rw [handler] at mem
    refine (SignalHandler.mem_pending_of_deliver mem).imp_right ?_
    rintro rfl
    rfl
  | listened _ handler => exact Or.inl (SignalHandler.mem_pending_listen.mp (handler ▸ mem))
  | askedReload taken | askedShutdown taken =>
    rw [(SignalHandler.of_take taken).2.2] at mem
    cases mem

/-- A handler becomes done by taking a signal that asks for shutdown. -/
theorem done_turn (effect : Effect d d' t) (done : d'.handler = .done) :
    d.handler = .done ∨ IsHeld d := by
  cases effect with
  | entered _ _ handler | wentOn _ _ _ handler | ended _ _ handler | kept _ _ handler =>
    exact Or.inl (handler.symm.trans done)
  | delivered _ handler =>
    exact Or.inl (SignalHandler.deliver_eq_done_iff.mp (handler.symm.trans done))
  | listened _ handler =>
    exact Or.inl (SignalHandler.listen_eq_done_iff.mp (handler.symm.trans done))
  | askedReload taken =>
    rw [(SignalHandler.of_take taken).2.2] at done
    cases done
  | askedShutdown taken =>
    obtain ⟨mem, asks, _⟩ := SignalHandler.of_take taken
    exact Or.inr (.pending asks mem)

end

/-! ## Every course -/

section

variable {content : Place} {watching : Bool} {turns : List Turn}

theorem course_concat (content : Place) (watching : Bool) (turns : List Turn) (t : Turn) :
    course content watching (turns ++ [t]) = (course content watching turns).turn t := by
  rw [course, List.foldl_append]
  rfl

theorem HasMishap.concat (mishap : HasMishap content watching turns) (t : Turn) :
    HasMishap content watching (turns ++ [t]) := by
  obtain ⟨early, s, late, rfl, here⟩ := mishap
  exact ⟨early, s, late ++ [t], by simp, here⟩

theorem hasMishap_concat {t : Turn} (mishap : (course content watching turns).Mishap t) :
    HasMishap content watching (turns ++ [t]) :=
  ⟨turns, t, [], rfl, mishap⟩

/-- What every course keeps. -/
structure IsAccounted (content : Place) (watching : Bool) (turns : List Turn) : Prop where
  begun : (course content watching turns).stage ≠ .fresh
  heard : ∀ s ∈ (course content watching turns).handler.pending, .step (.signal s) ∈ turns
  untriggered : (course content watching turns).handler ≠ .done →
    IsUntriggered (course content watching turns)
  held : IsAsked turns ∨ (course content watching turns).handler = .done →
    HasMishap content watching turns ∨ IsHeld (course content watching turns)

theorem isAccounted_nil (content : Place) (watching : Bool) : IsAccounted content watching [] := by
  have start : course content watching [] =
      (step { content := content } .load).value.1.attended watching := rfl
  rw [step_load_value] at start
  constructor
  · rw [start]
    simp [attended]
  · rw [start]
    intro s mem
    cases mem
  · rw [start]
    exact fun _ => .loaded rfl rfl
  · rw [start]
    rintro (⟨s, mem, _⟩ | done)
    · cases mem
    · cases done

theorem IsAccounted.concat (h : IsAccounted content watching turns) (t : Turn) :
    IsAccounted content watching (turns ++ [t]) := by
  have effect := effect_turn h.begun t
  rw [← course_concat] at effect
  refine ⟨begun_turn h.begun effect, ?_, IsUntriggered.turn h.untriggered effect, ?_⟩
  · intro s mem
    rcases pending_turn effect mem with before | rfl
    · exact List.mem_append_left _ (h.heard s before)
    · exact List.mem_append_right _ (List.mem_singleton_self _)
  · intro asked
    by_cases mishap : (course content watching turns).Mishap t
    · exact Or.inl (hasMishap_concat mishap)
    by_cases earlier : HasMishap content watching turns
    · exact Or.inl (earlier.concat t)
    right
    have before : IsAsked turns ∨ (course content watching turns).handler = .done →
        IsHeld (course content watching turns) := fun asked =>
      (h.held asked).resolve_left earlier
    rcases asked with ⟨s, mem, asks⟩ | done
    · rcases List.mem_append.mp mem with old | new
      · exact (before (Or.inl ⟨s, old, asks⟩)).turn h.untriggered effect mishap
      · obtain rfl : _ = t := List.mem_singleton.mp new
        exact isHeld_of_signal asks (fun done => before (Or.inr done)) h.untriggered effect mishap
    · have held : IsHeld (course content watching turns) :=
        (done_turn effect done).elim (fun done => before (Or.inr done)) id
      exact held.turn h.untriggered effect mishap

theorem isAccounted (content : Place) (watching : Bool) (turns : List Turn) :
    IsAccounted content watching turns := by
  induction turns using List.reverseRecOn with
  | nil => exact isAccounted_nil content watching
  | append_singleton turns t ih => exact ih.concat t

/-- At every mishap shutdown is asked for, or has been. -/
theorem HasMishap.isAsked (mishap : HasMishap content watching turns) : IsAsked turns := by
  obtain ⟨early, t, late, rfl, here⟩ := mishap
  have heard := (isAccounted content watching early).heard
  cases here with
  | @unheard s asks => exact ⟨s, by simp, asks⟩
  | @dropped s asks pending | @unannounced s asks pending =>
    exact ⟨s, List.mem_append_left _ (heard s pending), asks⟩

end

/-! ## The turns of a run -/

theorem foldl_turn_eq_run {d : Daemon} (late : d.stage = .serving ∨ d.stage = .ended)
    (steps : List Step) : (steps.map .step).foldl turn d = (d.run steps).value.1 := by
  induction steps generalizing d with
  | nil => rfl
  | cons s rest ih =>
    have turned : d.turn (.step s) = (d.step s).value.1 := by
      rcases late with late | late <;> simp [turn, late]
    rw [List.map_cons, List.foldl_cons, turned, run_cons_value]
    exact ih ((d.move_step s).late late)

theorem step_watch_eq_turn {d : Daemon} (early : d.stage = .loaded) (result : Option WatchError) :
    (d.step (.watch result)).value.1 = (d.attended result.isNone).turn .enter := by
  have entered : (d.attended result.isNone).turn .enter = (d.attended result.isNone).enter :=
    if_pos early
  rw [entered, ← serve_eq]
  simp only [step, early, watch_value]

/-- A run of the daemon is one in which the handler begins to work and the main loop is entered at
once. -/
theorem history_eq_course (content : Place) (result : Option WatchError) (steps : List Step) :
    (history content (.load :: .watch result :: steps)).1 =
      course content result.isNone (.enter :: steps.map .step) := by
  have early : (step { content := content } .load).value.1.stage = .loaded := by
    rw [step_load_value]
  have serving : ((step { content := content } .load).value.1.step (.watch result)).value.1.stage =
      .serving := by
    simp only [step_watch_eq_turn early, turn, attended, early, if_true, enter]
  rw [history, run_cons_value, run_cons_value, course, List.foldl_cons, ← step_watch_eq_turn early]
  exact (foldl_turn_eq_run (Or.inl serving) steps).symm

/-! ## Requests that are lost -/

/-- In whatever order signals come, are taken by the handler and are noticed by the main loop, a
request to stop is lost only after a mishap, and after a mishap it is lost as soon as nothing waits
and the loop goes on. This covers every run of the daemon, where the handler begins to work and the
main loop is entered at the same moment. -/
theorem lost_iff_mishap (content : Place) (watching : Bool) (turns : List Turn) :
    (IsLost content watching turns ↔
      HasMishap content watching turns ∧ (course content watching turns).IsQuiet) ∧
    ∀ result steps, (history content (.load :: .watch result :: steps)).1 =
      course content result.isNone (.enter :: steps.map .step) := by
  refine ⟨⟨?_, ?_⟩, history_eq_course content⟩
  · rintro ⟨asked, quiet⟩
    rcases (isAccounted content watching turns).held (Or.inl asked) with mishap | held
    · exact ⟨mishap, quiet⟩
    · exact absurd quiet held.not_isQuiet
  · rintro ⟨mishap, quiet⟩
    exact ⟨mishap.isAsked, quiet⟩

/-- Requests to stop that are lost: one that waits together with a hangup, one that comes between
two rounds, and one that is announced before the main loop has subscribed. -/
theorem stop_request_lost :
    IsLost .vacant true
      [.enter, .step (.signal .hangup), .step (.signal .terminate), .step (.handle .hangup)] ∧
    IsLost .vacant true
      [.enter, .step (.signal .hangup), .step (.handle .hangup), .step (.signal .terminate)] ∧
    IsLost .vacant true
      [.step (.signal .terminate), .step (.handle .terminate), .enter] := by
  refine ⟨⟨⟨.terminate, by decide, rfl⟩, ?_⟩, ⟨⟨.terminate, by decide, rfl⟩, ?_⟩,
    ⟨⟨.terminate, by decide, rfl⟩, ?_⟩⟩
  · exact ⟨by decide +kernel, by decide +kernel, by decide +kernel⟩
  · exact ⟨by decide +kernel, by decide +kernel, by decide +kernel⟩
  · exact ⟨by decide +kernel, by decide +kernel, by decide +kernel⟩

end Daemon

end Egress
