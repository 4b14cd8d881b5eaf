import Mathlib.Data.List.Basic
import Egress.Proofs.Decision
import Egress.Proofs.LineService
import Egress.Proofs.Occasions

/-!
# The configuration in force

A daemon that deals with one occasion after another answers every line from the snapshot of the last
payload that it could load, or by the direct way as long as there is none.

An occasion is dealt with by any steps of the daemon and its watcher, in any order, that leave
nothing to do. Occasions that overlap are not described here.
-/

namespace Egress

/-- A snapshot is live, whatever its generation. -/
def Live.Holds (l : Live) (c : Config) : Prop :=
  ∃ g, l.current = c.stamped g

theorem Live.holds_replaced (l : Live) (c : Config) : (l.replaced c).Holds c :=
  ⟨l.last + 1, rfl⟩

namespace Daemon

open Lines (lineEnd Reading)

def Step.isOwn : Step → Bool
  | .signal _ => false
  | s => !s.isForeign

/-- There is nothing that the daemon or its watcher has to do. -/
structure AtRest (d : Daemon) : Prop where
  notices : d.notices = 0
  updates : d.updates = []
  handler : d.handler = .listening []
  reloads : d.reloads = 0
  lines : d.lines.waiting = []

instance (d : Daemon) : Decidable d.AtRest :=
  decidable_of_iff
    (d.notices = 0 ∧ d.updates = [] ∧ d.handler = .listening [] ∧ d.reloads = 0 ∧
      d.lines.waiting = [])
    ⟨fun ⟨notices, updates, handler, reloads, lines⟩ =>
      ⟨notices, updates, handler, reloads, lines⟩,
    fun ⟨notices, updates, handler, reloads, lines⟩ =>
      ⟨notices, updates, handler, reloads, lines⟩⟩

/-- An occasion comes and is dealt with, with some answers. -/
def DealsWith (d : Daemon) (o : Occasion) (d' : Daemon) (answers : List String) : Prop :=
  ∃ work : List Step, (∀ s ∈ work, s.isOwn = true) ∧
    (d.run (o.step :: work)).value = (d', answers) ∧ d'.AtRest

theorem dealsWith_of_run (d : Daemon) (o : Occasion) (answers : List String) (work : List Step)
    (own : ∀ s ∈ work, s.isOwn = true) (rest : (d.run (o.step :: work)).value.1.AtRest)
    (given : (d.run (o.step :: work)).value.2 = answers) :
    d.DealsWith o (d.run (o.step :: work)).value.1 answers :=
  ⟨work, own, Prod.ext rfl given, rest⟩

/-- The daemon when it has started, with a watch that works or without one. -/
def started (content : Place) (watches : Bool) : Daemon :=
  (history content [.load, if watches then .watch none else .skipWatch]).1

/-- The occasions that a daemon has dealt with one after another, with their answers. -/
inductive Course (content : Place) (watches : Bool) :
    List (Occasion × List String) → Daemon → Prop where
  | start : Course content watches [] (started content watches)
  | next {past : List (Occasion × List String)} {d d' : Daemon} {o : Occasion}
      {answers : List String} (course : Course content watches past d)
      (dealt : d.DealsWith o d' answers) : Course content watches (past ++ [(o, answers)]) d'

/-- Some load of the payload is due, or a loaded snapshot is waiting. -/
def IsDue (d : Daemon) : Prop :=
  d.notices ≠ 0 ∨ d.updates ≠ [] ∨ d.handler = .listening [.hangup] ∨ d.reloads ≠ 0

theorem AtRest.not_isDue {d : Daemon} (rest : d.AtRest) : ¬ d.IsDue := by
  rintro (notices | updates | handler | reloads)
  · exact notices rest.notices
  · exact updates rest.updates
  · rw [rest.handler] at handler
    cases handler
  · exact reloads rest.reloads

/-- Of the input exactly one line is left, or nothing. -/
structure Owes (l : Lines) (owed : Option (List UInt8)) : Prop where
  goesOn : l.hasEnded = false
  fresh : l.partialLine = []
  waiting : l.waiting = owed.getD []
  line : ∀ line, owed = some line → ∃ front, line = front ++ [lineEnd] ∧ lineEnd ∉ front

theorem Owes.nothing {l : Lines} (goesOn : l.hasEnded = false) (fresh : l.partialLine = [])
    (waiting : l.waiting = []) : Owes l none := by
  refine ⟨goesOn, fresh, waiting, ?_⟩
  intro line absurd
  cases absurd

/-- A read finds nothing, or the one line that is left. -/
theorem Owes.reading {l lines : Lines} {owed : Option (List UInt8)} {taken : Option Nat}
    (owes : Owes l owed) (reading : Reading l lines taken) :
    (taken = none ∧ owed = none ∧ Owes lines none) ∨
      ∃ n, taken = some (n + 1) ∧ owed = some lines.partialLine ∧ Owes lines.clear none := by
  have waiting := owes.waiting
  cases reading with
  | pending goesOn clean =>
    cases owed with
    | none =>
      have empty : l.waiting = [] := waiting
      refine Or.inl ⟨rfl, rfl, .nothing owes.goesOn ?_ rfl⟩
      rw [owes.fresh, empty]
      rfl
    | some line =>
      obtain ⟨front, rfl, _⟩ := owes.line line rfl
      rw [waiting] at clean
      simp at clean
  | ended finished =>
    rw [owes.goesOn] at finished
    cases finished
  | line front back clean split =>
    cases owed with
    | none =>
      rw [waiting] at split
      simp at split
    | some line =>
      obtain ⟨whole, rfl, cleanWhole⟩ := owes.line line rfl
      rw [waiting] at split
      have split : whole ++ [lineEnd] = front ++ lineEnd :: back := split
      obtain ⟨rfl, _, rfl⟩ := (List.append_cons_inj_of_notMem cleanWhole List.not_mem_nil).mp split
      refine Or.inr ⟨_, rfl, ?_, .nothing owes.goesOn rfl rfl⟩
      rw [owes.fresh]
      rfl

/-- The steps that the handler of signals has to take, and the reload that one of them asks for. -/
def roundsLeft : SignalHandler → Nat
  | .away => 1
  | .listening (_ :: _) => 3
  | _ => 0

/-- A measure of what is left to do. A notice may leave a snapshot to be taken, and a signal leaves
a reload and a new round. -/
def toDo (d : Daemon) : Nat :=
  2 * d.notices + d.updates.length + roundsLeft d.handler + d.reloads + d.lines.waiting.length

theorem toDo_look {d : Daemon} (told : d.notices ≠ 0) :
    (d.step .look).value.1.toDo < d.toDo := by
  have one : (Payload.snapshot? d.content).toList.length ≤ 1 := by
    cases Payload.snapshot? d.content <;> simp
  simp only [step, told, if_false, look_value, toDo, List.length_append]
  omega

theorem toDo_update {d : Daemon} (serving : d.stage = .serving) {c : Config} {rest : List Config}
    (queued : d.updates = c :: rest) : (d.step .update).value.1.toDo < d.toDo := by
  rw [step_of_serving serving rfl (by simp)]
  simp only [serviceStep, update_value_cons queued, toDo, queued, List.length_cons,
    Lines.interrupt]
  omega

theorem toDo_reload {d : Daemon} (serving : d.stage = .serving) (asked : d.reloads ≠ 0) :
    (d.step .reload).value.1.toDo < d.toDo := by
  rw [step_of_serving serving rfl (by simp)]
  simp only [serviceStep, asked, if_false, reload_value, toDo, Lines.interrupt]
  omega

theorem toDo_listen {d : Daemon} (serving : d.stage = .serving) (away : d.handler = .away) :
    (d.step .listen).value.1.toDo < d.toDo := by
  rw [step_of_serving serving rfl (by simp)]
  simp [serviceStep, away, SignalHandler.listen, toDo, roundsLeft]

theorem toDo_handle {d : Daemon} (serving : d.stage = .serving)
    (pending : d.handler = .listening [.hangup]) :
    (d.step (.handle .hangup)).value.1.toDo < d.toDo := by
  have taken : d.handler.take .hangup = (.away, some .reload) := by
    rw [pending]
    rfl
  rw [step_of_serving serving rfl (by simp)]
  simp only [serviceStep, taken, meet, Traced.value_bind, Traced.value_pure]
  simp only [toDo, pending, roundsLeft]
  omega

/-- The daemon while it deals with an occasion that makes the snapshot `new` follow `old`. As long
as something is due, a load gives the new snapshot, or fails and the two are the same; when nothing
is due the new one is live. -/
structure Busy (content : Place) (watches : Bool) (old new : Config)
    (owed : Option (List UInt8)) (d : Daemon) : Prop where
  serving : d.stage = .serving
  quiet : d.shutdown = Shutdown.subscribe {}
  place : d.content = content
  noticing : d.watching = watches
  handler : d.handler = .away ∨ d.handler = .listening [] ∨ d.handler = .listening [.hangup]
  queued : ∀ c ∈ d.updates, c = new
  due : d.IsDue → (Payload.snapshot? content).getD old = new
  live : d.live.Holds old ∨ d.live.Holds new
  settles : d.IsDue ∨ d.live.Holds new
  owes : Owes d.lines owed
  steady : owed ≠ none → old = new

namespace Busy

variable {content : Place} {watches : Bool} {old new : Config} {owed : Option (List UInt8)}
  {d d' : Daemon} {s : Step} {answer : Option String}

/-- A load that is due and fails leaves the new snapshot live, since it is the old one. -/
theorem holds_of_failed (busy : Busy content watches old new owed d) (due : d.IsDue)
    (failed : Payload.snapshot? content = none) : d.live.Holds new := by
  have same := busy.due due
  rw [failed] at same
  obtain rfl : old = new := same
  exact busy.live.elim id id

/-- A load that is due and succeeds gives the new snapshot. -/
theorem eq_of_loaded (busy : Busy content watches old new owed d) (due : d.IsDue) {c : Config}
    (loaded : Payload.snapshot? content = some c) : c = new := by
  have same := busy.due due
  rwa [loaded] at same

theorem look (busy : Busy content watches old new owed d) (told : d.notices ≠ 0) :
    Busy content watches old new owed
      { d with
        notices := d.notices - 1
        updates := d.updates ++ (Payload.snapshot? d.content).toList } := by
  have due : d.IsDue := Or.inl told
  have here : Payload.snapshot? d.content = Payload.snapshot? content := by rw [busy.place]
  rw [here]
  cases loaded : Payload.snapshot? content with
  | none =>
    rw [Option.toList_none, List.append_nil]
    exact { busy with
      due := fun _ => busy.due due
      settles := Or.inr (busy.holds_of_failed due loaded) }
  | some c =>
    obtain rfl := busy.eq_of_loaded due loaded
    refine { busy with
      queued := ?_
      due := fun _ => busy.due due
      settles := Or.inl (Or.inr (Or.inl (by simp))) }
    intro c' mem
    rcases List.mem_append.mp mem with before | last
    · exact busy.queued c' before
    · simpa using last

theorem listen (busy : Busy content watches old new owed d) :
    Busy content watches old new owed { d with handler := d.handler.listen } := by
  rcases busy.handler with away | listening
  · have same : { d with handler := d.handler.listen }.IsDue ↔ d.IsDue := by
      simp [IsDue, away, SignalHandler.listen]
    exact { busy with
      handler := Or.inr (Or.inl (by rw [away]; rfl))
      due := fun due => busy.due (same.mp due)
      settles := busy.settles.imp_left same.mpr }
  · have same : d.handler.listen = d.handler := by
      rcases listening with h | h <;> rw [h] <;> rfl
    rw [same]
    exact busy

/-- A signal that is taken is the hangup, and leads to a reload. -/
theorem take (busy : Busy content watches old new owed d) {signal : Signal}
    {handler : SignalHandler} {demand : Demand}
    (taken : d.handler.take signal = (handler, some demand)) :
    demand = .reload ∧ handler = .away ∧ d.handler = .listening [.hangup] := by
  rcases busy.handler with h | h | h
  · rw [h] at taken
    cases taken
  · rw [h] at taken
    cases taken
  · rw [h] at taken ⊢
    cases signal with
    | hangup =>
      cases taken
      exact ⟨rfl, rfl, rfl⟩
    | terminate | interrupt => cases taken

theorem askReload (busy : Busy content watches old new owed d)
    (pending : d.handler = .listening [.hangup]) :
    Busy content watches old new owed
      { d with handler := .away, reloads := d.reloads + 1 } :=
  { busy with
    handler := Or.inl rfl
    due := fun _ => busy.due (Or.inr (Or.inr (Or.inl pending)))
    settles := Or.inl (Or.inr (Or.inr (Or.inr (Nat.succ_ne_zero _)))) }

theorem update (busy : Busy content watches old new owed d) {c : Config} {rest : List Config}
    (queued : d.updates = c :: rest) :
    Busy content watches old new owed
      { d with updates := rest, live := d.live.replaced c, lines := d.lines.interrupt } := by
  obtain rfl : c = new := busy.queued c (by simp [queued])
  have due : d.IsDue := Or.inr (Or.inl (by simp [queued]))
  exact { busy with
    queued := fun c' mem => busy.queued c' (by simp [queued, mem])
    due := fun _ => busy.due due
    live := Or.inr (d.live.holds_replaced c)
    settles := Or.inr (d.live.holds_replaced c)
    owes := ⟨busy.owes.goesOn, busy.owes.fresh, busy.owes.waiting, busy.owes.line⟩ }

theorem reload (busy : Busy content watches old new owed d) (asked : d.reloads ≠ 0) :
    Busy content watches old new owed
      { d with
        reloads := d.reloads - 1
        lines := d.lines.interrupt
        live := (Payload.snapshot? d.content).elim d.live d.live.replaced } := by
  have due : d.IsDue := Or.inr (Or.inr (Or.inr asked))
  have holds : Live.Holds ((Payload.snapshot? d.content).elim d.live d.live.replaced) new := by
    rw [busy.place]
    cases loaded : Payload.snapshot? content with
    | none => exact busy.holds_of_failed due loaded
    | some c =>
      obtain rfl := busy.eq_of_loaded due loaded
      exact d.live.holds_replaced c
  exact { busy with
    due := fun _ => busy.due due
    live := Or.inr holds
    settles := Or.inr holds
    owes := ⟨busy.owes.goesOn, busy.owes.fresh, busy.owes.waiting, busy.owes.line⟩ }

/-- Whatever step comes next, what is left to answer and the answer given make up what was left. -/
theorem move (busy : Busy content watches old new owed d) (move : Move d s d' answer)
    (own : s.isOwn = true) :
    ∃ owed', Busy content watches old new owed' d' ∧
      answer.toList ++ new.answersTo owed' = new.answersTo owed := by
  cases move with
  | replaced | removed | arrived | closed | signalled => cases own
  | loaded early | watched _ early | unwatched early =>
    rw [busy.serving] at early
    cases early
  | looked told => exact ⟨owed, busy.look told, rfl⟩
  | listened => exact ⟨owed, busy.listen, rfl⟩
  | askedReload _ taken =>
    obtain ⟨_, rfl, pending⟩ := busy.take taken
    exact ⟨owed, busy.askReload pending, rfl⟩
  | askedShutdown _ taken =>
    obtain ⟨absurd, _⟩ := busy.take taken
    cases absurd
  | updated _ queued => exact ⟨owed, busy.update queued, rfl⟩
  | reloaded _ asked => exact ⟨owed, busy.reload asked, rfl⟩
  | readOn _ pending =>
    rcases busy.owes.reading (Move.reading pending) with ⟨_, rfl, owes⟩ | ⟨_, absurd, _⟩
    · exact ⟨none, { busy with owes := owes }, rfl⟩
    · cases absurd
  | answered _ finished =>
    -- A line is owed only while one snapshot is live throughout, so the moment of the read is free.
    rcases busy.owes.reading (Move.reading finished) with ⟨absurd, _⟩ | ⟨n, some, rfl, owes⟩
    · cases absurd
    · cases some
      obtain rfl := busy.steady (by simp)
      obtain ⟨g, current⟩ := busy.live.elim id id
      refine ⟨none, { busy with
        serving := ?_
        owes := owes
        steady := fun _ => rfl }, ?_⟩
      · rw [if_neg (Nat.succ_ne_zero n)]
        exact busy.serving
      · rw [Live.answer_stamped current 0]
        exact List.append_nil _
  | stopped _ announced =>
    -- Nothing was announced since the daemon subscribed.
    rw [busy.quiet] at announced
    cases announced
  | wentOn =>
    have same : (d.shutdown.receive 0).1 = Shutdown.subscribe {} := by
      rw [busy.quiet]
      rfl
    exact ⟨owed, { busy with quiet := same }, rfl⟩
  | idle => exact ⟨owed, busy, rfl⟩

/-- The steps of the daemon give the answers that are owed, up to what is still owed after them. -/
theorem run (busy : Busy content watches old new owed d) {work : List Step}
    (own : ∀ s ∈ work, s.isOwn = true) :
    ∃ owed', Busy content watches old new owed' (d.run work).value.1 ∧
      (d.run work).value.2 ++ new.answersTo owed' = new.answersTo owed := by
  induction work generalizing d owed with
  | nil => exact ⟨owed, busy, rfl⟩
  | cons s work ih =>
    obtain ⟨owed₁, busy₁, first⟩ := busy.move (move_step d s) (own s (by simp))
    obtain ⟨owed₂, busy₂, later⟩ := ih busy₁ fun s' mem => own s' (by simp [mem])
    refine ⟨owed₂, busy₂, ?_⟩
    rw [run_cons_value, List.append_assoc, later, first]

/-- A daemon with nothing left to do has the new snapshot live, and owes no answer. -/
theorem of_atRest (busy : Busy content watches old new owed d) (rest : d.AtRest) :
    d.live.Holds new ∧ owed = none := by
  constructor
  · rcases busy.settles with due | live
    · exact absurd due rest.not_isDue
    · exact live
  · cases owed with
    | none => rfl
    | some line =>
      obtain ⟨front, rfl, _⟩ := busy.owes.line line rfl
      have waiting := busy.owes.waiting
      rw [rest.lines] at waiting
      simp at waiting

theorem toDo_read (busy : Busy content watches old new owed d) (unread : d.lines.waiting ≠ []) :
    (d.step .read).value.1.toDo < d.toDo := by
  have some := List.length_pos_of_ne_nil unread
  rw [step_of_serving busy.serving rfl (by simp)]
  cases result : d.lines.read with
  | mk after taken =>
    rcases busy.owes.reading (Move.reading result) with ⟨_, rfl, _⟩ | ⟨n, rfl, _, owes⟩
    · exact absurd busy.owes.waiting unread
    · have empty : after.clear.waiting = [] := owes.waiting
      simp only [serviceStep, read_value_over result, toDo, empty, List.length_nil]
      omega

/-- A daemon with something left to do can take a step that leaves it less. -/
theorem exists_step (busy : Busy content watches old new owed d) :
    d.AtRest ∨ ∃ s : Step, s.isOwn = true ∧ (d.step s).value.1.toDo < d.toDo := by
  by_cases notices : d.notices = 0
  swap
  · exact Or.inr ⟨.look, rfl, toDo_look notices⟩
  cases queued : d.updates with
  | cons c rest => exact Or.inr ⟨.update, rfl, toDo_update busy.serving queued⟩
  | nil =>
    by_cases reloads : d.reloads = 0
    swap
    · exact Or.inr ⟨.reload, rfl, toDo_reload busy.serving reloads⟩
    rcases busy.handler with handler | handler | handler
    · exact Or.inr ⟨.listen, rfl, toDo_listen busy.serving handler⟩
    · by_cases lines : d.lines.waiting = []
      · exact Or.inl ⟨notices, queued, handler, reloads, lines⟩
      · exact Or.inr ⟨.read, rfl, busy.toDo_read lines⟩
    · exact Or.inr ⟨.handle .hangup, rfl, toDo_handle busy.serving handler⟩

/-- The daemon can always get to rest by its own steps. -/
theorem exists_work (busy : Busy content watches old new owed d) :
    ∃ work : List Step, (∀ s ∈ work, s.isOwn = true) ∧ (d.run work).value.1.AtRest := by
  induction size : d.toDo using Nat.strong_induction_on generalizing d owed with
  | h size ih =>
    rcases busy.exists_step with rest | ⟨s, own, less⟩
    · exact ⟨[], by simp, rest⟩
    · obtain ⟨owed', busy', _⟩ := busy.move (move_step d s) own
      obtain ⟨work, owns, rest⟩ := ih _ (by omega) busy' rfl
      refine ⟨s :: work, ?_, ?_⟩
      · simpa [own] using owns
      · rw [run_cons_value]
        exact rest

end Busy

/-- A serving daemon with nothing left to do, ready for the next occasion. -/
structure Ready (content : Place) (watches : Bool) (c : Config) (d : Daemon) : Prop where
  rest : d.AtRest
  serving : d.stage = .serving
  quiet : d.shutdown = Shutdown.subscribe {}
  place : d.content = content
  noticing : d.watching = watches
  owes : Owes d.lines none
  live : d.live.Holds c

namespace Ready

variable {content : Place} {watches : Bool} {c : Config} {d d' : Daemon} {o : Occasion}
  {answers : List String}

def next (content : Place) (watches : Bool) (c : Config) (o : Occasion) : Config :=
  ((o.attempt? content watches).bind Payload.snapshot?).getD c

theorem answersTo_next (content : Place) (watches : Bool) (c : Config) (o : Occasion) :
    (next content watches c o).answersTo o.line? = c.answersTo o.line? := by
  cases o with
  | line bytes single =>
    have kept : next content watches c (.line bytes single) = c := rfl
    rw [kept]
  | replace | hangup => simp only [Occasion.line?, Config.answersTo, Option.bind_none]

theorem not_mem_updates (ready : Ready content watches c d) (c' : Config) : c' ∉ d.updates := by
  rw [ready.rest.updates]
  exact List.not_mem_nil

theorem idle (ready : Ready content watches c d) : Busy content watches c c none d :=
  { serving := ready.serving
    quiet := ready.quiet
    place := ready.place
    noticing := ready.noticing
    handler := Or.inr (Or.inl ready.rest.handler)
    queued := fun c' mem => absurd mem (ready.not_mem_updates c')
    due := fun due => (ready.rest.not_isDue due).elim
    live := Or.inl ready.live
    settles := Or.inr ready.live
    owes := ready.owes
    steady := fun _ => rfl }

theorem arrive (ready : Ready content watches c d) {bytes : List UInt8}
    (single : lineEnd ∉ bytes) :
    Busy content watches c c (some (bytes ++ [lineEnd]))
      { d with lines := d.lines.arrive (bytes ++ [lineEnd]) } := by
  refine { ready.idle with
    owes := ?_
    steady := fun _ => rfl }
  have arrived : d.lines.arrive (bytes ++ [lineEnd]) =
      ⟨bytes ++ [lineEnd], d.lines.hasEnded, d.lines.partialLine, d.lines.taken⟩ := by
    rw [Lines.arrive, ready.owes.goesOn, if_neg (by simp), ready.rest.lines]
    rfl
  rw [arrived]
  refine ⟨ready.owes.goesOn, ready.owes.fresh, rfl, ?_⟩
  rintro line ⟨⟩
  exact ⟨bytes, rfl, single⟩

theorem replace (ready : Ready content watches c d) (bytes : List UInt8) (more : Nat) :
    Busy (.file bytes) watches c (next content watches c (.replace bytes more)) none
      { d with
        content := .file bytes
        notices := d.notices + if d.watching then more + 1 else 0 } := by
  have queued : ∀ c' ∈ d.updates, c' = next content watches c (.replace bytes more) :=
    fun c' mem => absurd mem (ready.not_mem_updates c')
  cases watches with
  | true =>
    have told : d.notices + (if d.watching then more + 1 else 0) ≠ 0 := by
      rw [ready.noticing, if_pos rfl]
      omega
    exact { ready.idle with
      place := rfl
      queued := queued
      due := fun _ => rfl
      live := Or.inl ready.live
      settles := Or.inl (Or.inl told)
      steady := fun absurd => (absurd rfl).elim }
  | false =>
    have same : d.notices + (if d.watching then more + 1 else 0) = d.notices := by
      rw [ready.noticing]
      rfl
    rw [same]
    exact { ready.idle with
      place := rfl
      queued := queued
      due := fun due => (ready.rest.not_isDue due).elim
      live := Or.inl ready.live
      settles := Or.inr ready.live
      steady := fun absurd => (absurd rfl).elim }

theorem hangup (ready : Ready content watches c d) :
    Busy content watches c (next content watches c .hangup) none
      { d with handler := d.handler.deliver .hangup } := by
  have pending : d.handler.deliver .hangup = .listening [.hangup] := by
    rw [ready.rest.handler]
    rfl
  exact { ready.idle with
    handler := Or.inr (Or.inr pending)
    queued := fun c' mem => absurd mem (ready.not_mem_updates c')
    due := fun _ => rfl
    live := Or.inl ready.live
    settles := Or.inl (Or.inr (Or.inr (Or.inl pending)))
    steady := fun absurd => (absurd rfl).elim }

/-- When an occasion comes, the daemon is busy with it. -/
theorem busy (ready : Ready content watches c d) (o : Occasion) :
    Busy (o.contentAfter content) watches c (next content watches c o) o.line?
        (d.step o.step).value.1 ∧
      (d.step o.step).value.2 = none := by
  cases o with
  | line bytes single => exact ⟨ready.arrive single, rfl⟩
  | replace bytes more => exact ⟨ready.replace bytes more, rfl⟩
  | hangup =>
    rw [Occasion.step, step_of_serving ready.serving rfl (by simp)]
    exact ⟨ready.hangup, rfl⟩

theorem of_busy {owed : Option (List UInt8)} {old new : Config}
    (busy : Busy content watches old new owed d) (rest : d.AtRest) :
    Ready content watches new d := by
  obtain ⟨live, rfl⟩ := busy.of_atRest rest
  exact ⟨rest, busy.serving, busy.quiet, busy.place, busy.noticing, busy.owes, live⟩

/-- However an occasion is dealt with, it is answered from the snapshot it leaves live. -/
theorem dealsWith (ready : Ready content watches c d) (dealt : d.DealsWith o d' answers) :
    Ready (o.contentAfter content) watches (next content watches c o) d' ∧
      answers = (next content watches c o).answersTo o.line? := by
  obtain ⟨work, own, run, rest⟩ := dealt
  obtain ⟨busy, silent⟩ := ready.busy o
  obtain ⟨owed, after, given⟩ := busy.run own
  rw [run_cons_value, silent, Prod.mk.injEq] at run
  obtain ⟨rfl, rfl⟩ := run
  obtain ⟨_, rfl⟩ := after.of_atRest rest
  refine ⟨of_busy after rest, ?_⟩
  rw [← given]
  exact (List.append_nil _).symm

theorem exists_dealsWith (ready : Ready content watches c d) (o : Occasion) :
    ∃ d' answers, d.DealsWith o d' answers := by
  obtain ⟨busy, _⟩ := ready.busy o
  obtain ⟨work, own, rest⟩ := busy.exists_work
  exact ⟨_, _, work, own, rfl, rest⟩

end Ready

/-- The daemon has started with the payload, or with null in its stead. -/
theorem ready_started (content : Place) (watches : Bool) :
    Ready content watches
      ((Payload.snapshot? content).getD (Payload.hydrate .null).value)
      (started content watches) := by
  have loaded := step_load_value content
  have running : started content watches =
      serve (step { content := content } .load).value.1 watches := by
    rw [started, history, run_cons_value, loaded]
    cases watches <;> rfl
  rw [running, loaded]
  exact ⟨⟨rfl, rfl, rfl, rfl, rfl⟩, rfl, rfl, rfl, rfl, .nothing rfl rfl rfl,
    Live.vacant.holds_replaced _⟩

namespace Course

open Occasion

variable {content : Place} {watches : Bool} {past : List (Occasion × List String)} {d : Daemon}

theorem ready (course : Course content watches past d) :
    Ready (contentAfterAll content (past.map Prod.fst)) watches
      ((inForce watches content (past.map Prod.fst)).getD (Payload.hydrate .null).value) d := by
  induction course with
  | start =>
    rw [List.map_nil, inForce_nil]
    exact ready_started content watches
  | @next past d d' o answers course dealt ih =>
    have after := (ih.dealsWith dealt).1
    rw [List.map_append, contentAfterAll, List.foldl_append, List.map_singleton, inForce_concat,
      Option.getD_or]
    exact after

/-- Every occasion of a course was answered from the snapshot that the earlier ones left live. -/
theorem answers_eq (course : Course content watches past d) :
    ∀ before o answers later, past = before ++ (o, answers) :: later →
      answers = ((inForce watches content (before.map Prod.fst)).getD
        (Payload.hydrate .null).value).answersTo o.line? := by
  induction course with
  | start =>
    intro before o answers later absurd
    simp at absurd
  | @next past d d' o answers course dealt ih =>
    intro before o' answers' later split
    rcases List.eq_nil_or_concat later with rfl | ⟨later, last, rfl⟩
    · obtain ⟨rfl, same⟩ := List.append_inj' split rfl
      cases same
      rw [(course.ready.dealsWith dealt).2, Ready.answersTo_next]
    · rw [List.concat_eq_append, ← List.cons_append, ← List.append_assoc] at split
      exact ih before o' answers' later (List.append_inj' split rfl).1

theorem exists_course (course : Course content watches past d) (os : List Occasion) :
    ∃ later d', Course content watches (past ++ later) d' ∧ later.map Prod.fst = os := by
  induction os generalizing past d with
  | nil => exact ⟨[], d, by rwa [List.append_nil], rfl⟩
  | cons o os ih =>
    obtain ⟨d', answers, dealt⟩ := course.ready.exists_dealsWith o
    obtain ⟨later, d'', course', rfl⟩ := ih (course.next dealt)
    refine ⟨(o, answers) :: later, d'', ?_, rfl⟩
    rwa [List.append_assoc] at course'

/-- What is answered to later occasions follows from what is in force before each of them. -/
theorem later_unique {before before' later later' : List (Occasion × List String)} {d' : Daemon}
    (course : Course content watches (before ++ later) d)
    (course' : Course content watches (before' ++ later') d')
    (alike : ∀ os, inForce watches content (before.map Prod.fst ++ os) =
      inForce watches content (before'.map Prod.fst ++ os))
    (same : later.map Prod.fst = later'.map Prod.fst) : later = later' := by
  induction later generalizing before before' later' with
  | nil =>
    rw [List.map_nil] at same
    exact (List.map_eq_nil_iff.mp same.symm).symm
  | cons first later ih =>
    obtain ⟨o, answers⟩ := first
    cases later' with
    | nil => cases same
    | cons first' later' =>
      obtain ⟨o', answers'⟩ := first'
      rw [List.map_cons, List.map_cons, List.cons.injEq] at same
      obtain ⟨same, others⟩ := same
      obtain rfl : o = o' := same
      have now := alike []
      rw [List.append_nil, List.append_nil] at now
      obtain rfl : answers = answers' := by
        rw [course.answers_eq before o answers later rfl,
          course'.answers_eq before' o answers' later' rfl, now]
      rw [List.append_cons] at course course'
      rw [ih course course' ?_ others]
      intro os
      have alike' := alike (o :: os)
      simpa using alike'

end Course

theorem route_of_disabled {c : Config} (off : c.enabled = false) (url : String) :
    (c.route url).value = .direct := by
  rw [Config.route_value, Config.decide, off]
  rfl

/-- As long as no payload is loaded, only blank text is not answered, and all else by the direct
way. -/
theorem answersTo_of_null (line : List UInt8) :
    (∀ text, Text.Utf8.decode line = .ok text → (∀ c ∈ text.toList, Text.isBlank c = true) →
      (Payload.hydrate .null).value.answersTo (some line) = []) ∧
    ((∀ text, Text.Utf8.decode line = .ok text → ∃ c ∈ text.toList, Text.isBlank c = false) →
      (Payload.hydrate .null).value.answersTo (some line) = [Live.answerLine .direct]) := by
  have off : (Payload.hydrate .null).value.enabled = false := rfl
  generalize (Payload.hydrate .null).value = c at off ⊢
  constructor
  · intro text decodes blank
    rw [Config.answersTo, Option.bind_some, Live.answer_of_blank _ decodes blank]
    rfl
  · intro some
    cases decodes : Text.Utf8.decode line with
    | error e =>
      rw [Config.answersTo, Option.bind_some, Live.answer_of_undecodable _ decodes]
      rfl
    | ok text =>
      obtain ⟨char, mem, visible⟩ := some text decodes
      have notBlank : ¬ ∀ c ∈ text.toList, Text.isBlank c = true := by
        intro blank
        rw [blank char mem] at visible
        cases visible
      rw [Config.answersTo, Option.bind_some, Live.answer_of_text _ decodes notBlank,
        route_of_disabled off]
      rfl

/-- However a daemon deals with lines, replaced payload files and hangups that come one after
another, every line is answered from the snapshot of the last payload that was loaded before it, and
nothing but lines is answered. With a watch that payload is the last content that could be loaded of
all that the file ever had, without one it is the last such content at a hangup, or else the one at
the start. Without any, all that is not blank goes direct. A course without a load that failed has
the same answers otherwise, and a course can go on with any occasions. -/
theorem course_answers_from_last_loaded {content : Place} {watches : Bool}
    {past : List (Occasion × List String)} {d : Daemon} (course : Course content watches past d) :
    (∀ before bytes single answers later,
      past = before ++ (.line bytes single, answers) :: later →
        (∀ c, Occasion.inForce watches content (before.map Prod.fst) = some c → ∀ g,
          answers = ((⟨c, g⟩ : Live).answer (bytes ++ [lineEnd])).value.toList) ∧
        (Occasion.inForce watches content (before.map Prod.fst) = none →
          (∀ text, Text.Utf8.decode (bytes ++ [lineEnd]) = .ok text →
            (∀ c ∈ text.toList, Text.isBlank c = true) → answers = []) ∧
          ((∀ text, Text.Utf8.decode (bytes ++ [lineEnd]) = .ok text →
            ∃ c ∈ text.toList, Text.isBlank c = false) → answers = [Live.answerLine .direct]))) ∧
    (∀ o answers, (o, answers) ∈ past → o.line? = none → answers = []) ∧
    (∀ os, Occasion.inForce watches content os =
      Occasion.lastLoadable (content ::
        if watches then Occasion.replacements os else Occasion.atHangups content os)) ∧
    (∀ before o answers later place, past = before ++ (o, answers) :: later →
      o.attempt? (Occasion.contentAfterAll content (before.map Prod.fst)) watches = some place →
      Payload.snapshot? place = none →
        ∀ later' d', Course content watches (before ++ later') d' →
          later'.map Prod.fst = later.map Prod.fst → later' = later) ∧
    (∀ os, ∃ later d', Course content watches (past ++ later) d' ∧ later.map Prod.fst = os) := by
  refine ⟨?_, ?_, ?_, ?_, course.exists_course⟩
  · intro before bytes single answers later split
    have given := course.answers_eq before _ answers later split
    constructor
    · intro c inForce g
      rw [given, inForce, Live.answer_stamped (c := c) (l := ⟨c, g⟩) rfl 0]
      rfl
    · intro none
      rw [given, none]
      exact answersTo_of_null (bytes ++ [lineEnd])
  · intro o answers mem other
    obtain ⟨before, later, split⟩ := List.append_of_mem mem
    rw [course.answers_eq before o answers later split, other]
    rfl
  · intro os
    cases watches with
    | true => exact Occasion.inForce_watched content os
    | false => exact Occasion.inForce_unwatched content os
  · rintro before o answers later place rfl attempted failed later' d' course' same
    rw [List.append_cons] at course
    refine course'.later_unique course ?_ same
    intro os
    rw [List.map_append, List.append_assoc]
    exact (Occasion.inForce_of_failed attempted failed os).symm

def proxiedPayload : Json :=
  Json.ofMembers [
    ("proxyEnabled", .bool true),
    ("httpProxy", .string "proxy.example"),
    ("httpPort", Json.ofNat 8080)]

/-- The file is replaced by a brace, and the next line goes through the proxy as before. -/
theorem course_past_malformed_payload :
    ∃ single d,
      Course (.file (Payload.fileBytes proxiedPayload)) true
        [(.replace [123] 1, []),
          (.line (Text.Utf8.encode "http://a.example/") single,
            [Live.answerLine (.proxy [⟨"proxy.example", 8080⟩])])] d ∧
      [Live.answerLine (.proxy [⟨"proxy.example", 8080⟩])] =
        (Live.answer ⟨(Payload.hydrate proxiedPayload).value, 1⟩
          (Text.Utf8.encode "http://a.example/" ++ [lineEnd])).value.toList := by
  have inForce : Occasion.inForce true (.file (Payload.fileBytes proxiedPayload))
      [.replace [123] 1] = some (Payload.hydrate proxiedPayload).value := by decide +kernel
  have first := dealsWith_of_run (started (.file (Payload.fileBytes proxiedPayload)) true)
    (.replace [123] 1) [] [.look, .look] (by decide) (by decide +kernel) (by decide +kernel)
  have second := dealsWith_of_run
    ((started (.file (Payload.fileBytes proxiedPayload)) true).run
      [Occasion.step (.replace [123] 1), .look, .look]).value.1
    (.line (Text.Utf8.encode "http://a.example/") (by decide +kernel))
    [Live.answerLine (.proxy [⟨"proxy.example", 8080⟩])] [.read] (by decide) (by decide +kernel)
    (by decide +kernel)
  have course := (Course.start.next first).next second
  exact ⟨_, _, course,
    ((course_answers_from_last_loaded course).1 [_] _ _ _ [] rfl).1 _ inForce 1⟩

end Daemon

end Egress
