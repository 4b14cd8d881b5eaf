import Mathlib.Data.List.Induction
import Mathlib.Data.List.TakeWhile
import Egress.Daemon.Shutdown

/-!
# A shutdown is announced once

However often a shutdown is asked for, only the first trigger sends a message, and it sends one to
those alone who have subscribed before it. So there is never a second message that could push out
the first from the channel, and a subscriber that looks finds the message once, or nothing.

A subscriber is known by the number of subscriptions in front of its own. Subscribers that go away,
and looks that wait for a message, are not described.
-/

namespace Egress.Shutdown

/-- The requests from the beginning of a shutdown, each with what a look at it has found. -/
def transcript (requests : List Request) : List (Request × Option Receipt) :=
  requests.zip (run {} requests).value.2

def after (requests : List Request) : Shutdown :=
  (run {} requests).value.1

/-- The first trigger has come after the subscription of `subscriber`. -/
def IsCalled (past : List Request) (subscriber : Nat) : Prop :=
  ∃ early late, past = early ++ .subscribe :: late ∧ early.count .subscribe = subscriber ∧
    .trigger ∉ early ∧ .trigger ∈ late

/-- The message was sent to a subscriber that has not found it yet. -/
def IsDue (past : List Request) (subscriber : Nat) : Prop :=
  IsCalled past subscriber ∧ (.receive subscriber, some .message) ∉ transcript past

/-! ## One more request -/

theorem run_cons_value (s : Shutdown) (r : Request) (rest : List Request) :
    (s.run (r :: rest)).value =
      (((s.step r).value.1.run rest).value.1,
        (s.step r).value.2 :: ((s.step r).value.1.run rest).value.2) := rfl

theorem run_append_value (s : Shutdown) (xs ys : List Request) :
    (s.run (xs ++ ys)).value =
      (((s.run xs).value.1.run ys).value.1,
        (s.run xs).value.2 ++ ((s.run xs).value.1.run ys).value.2) :=
  Traced.run_append_value _ _ s xs ys

theorem length_receipts (s : Shutdown) (requests : List Request) :
    (s.run requests).value.2.length = requests.length := by
  induction requests generalizing s with
  | nil => rfl
  | cons r rest ih => rw [run_cons_value, List.length_cons, ih, List.length_cons]

theorem after_concat (past : List Request) (r : Request) :
    after (past ++ [r]) = ((after past).step r).value.1 := by
  rw [after, run_append_value]
  rfl

theorem transcript_concat (past : List Request) (r : Request) :
    transcript (past ++ [r]) = transcript past ++ [(r, ((after past).step r).value.2)] := by
  rw [transcript, run_append_value, List.zip_append (length_receipts {} past).symm]
  rfl

/-- What is found at a request depends on the requests before it alone. -/
theorem receipt_eq (past : List Request) (r : Request) (later : List Request) :
    (run {} (past ++ r :: later)).value.2[past.length]? = some ((after past).step r).value.2 := by
  rw [run_append_value, List.getElem?_append_right (by rw [length_receipts]), length_receipts,
    Nat.sub_self]
  rfl

/-! ## Who is called -/

def untilTrigger (past : List Request) : List Request :=
  past.takeWhile fun r => r != .trigger

theorem trigger_notMem_untilTrigger (past : List Request) : .trigger ∉ untilTrigger past := by
  intro mem
  simpa using List.mem_takeWhile_imp mem

theorem untilTrigger_append_of_untriggered {early : List Request} (untriggered : .trigger ∉ early)
    (late : List Request) : untilTrigger (early ++ late) = early ++ untilTrigger late := by
  refine List.takeWhile_append_of_pos fun r mem => ?_
  rw [bne_iff_ne]
  rintro rfl
  exact untriggered mem

theorem untilTrigger_concat_of_triggered {past : List Request} (triggered : .trigger ∈ past)
    (r : Request) : untilTrigger (past ++ [r]) = untilTrigger past := by
  have stops : (untilTrigger past).length ≠ past.length := by
    intro whole
    have all := (List.takeWhile_prefix _).eq_of_length whole
    rw [← all] at triggered
    exact trigger_notMem_untilTrigger past triggered
  rw [untilTrigger, List.takeWhile_append]
  exact if_neg stops

theorem exists_subscription {past : List Request} {k : Nat} (present : k < past.count .subscribe) :
    ∃ early late, past = early ++ .subscribe :: late ∧ early.count .subscribe = k := by
  induction past generalizing k with
  | nil => cases present
  | cons r past ih =>
    by_cases own : r = .subscribe
    · subst own
      cases k with
      | zero => exact ⟨[], past, rfl, rfl⟩
      | succ k =>
        rw [List.count_cons_self] at present
        obtain ⟨early, late, rfl, count⟩ := ih (Nat.lt_of_succ_lt_succ present)
        exact ⟨.subscribe :: early, late, rfl, by rw [List.count_cons_self, count]⟩
    · rw [List.count_cons_of_ne own] at present
      obtain ⟨early, late, rfl, count⟩ := ih present
      exact ⟨r :: early, late, rfl, by rw [List.count_cons_of_ne own, count]⟩

/-- Called are those whose subscription is in front of the first trigger, if there was one. -/
theorem isCalled_iff (past : List Request) (k : Nat) :
    IsCalled past k ↔ .trigger ∈ past ∧ k < (untilTrigger past).count .subscribe := by
  constructor
  · rintro ⟨early, late, rfl, rfl, untriggered, triggered⟩
    refine ⟨by simp [triggered], ?_⟩
    rw [untilTrigger_append_of_untriggered untriggered, untilTrigger,
      List.takeWhile_cons_of_pos (by decide), List.count_append, List.count_cons_self]
    omega
  · rintro ⟨triggered, present⟩
    obtain ⟨early, between, split, count⟩ := exists_subscription present
    obtain ⟨rest, whole⟩ := List.takeWhile_prefix (l := past) fun r => r != .trigger
    have clean := trigger_notMem_untilTrigger past
    have parts : past = early ++ .subscribe :: (between ++ rest) := by
      rw [← whole]
      show untilTrigger past ++ rest = _
      rw [split, List.append_assoc, List.cons_append]
    rw [split] at clean
    refine ⟨early, between ++ rest, parts, count, ?_, ?_⟩
    · intro mem
      exact clean (List.mem_append_left _ mem)
    · rw [parts] at triggered
      simp only [List.mem_append, List.mem_cons, not_or] at clean triggered ⊢
      tauto

theorem IsCalled.triggered {past : List Request} {k : Nat} (called : IsCalled past k) :
    .trigger ∈ past :=
  ((isCalled_iff past k).mp called).1

theorem IsCalled.lt {past : List Request} {k : Nat} (called : IsCalled past k) :
    k < past.count .subscribe := by
  obtain ⟨early, late, rfl, rfl, _⟩ := called
  rw [List.count_append, List.count_cons_self]
  omega

/-- A request that is not the first trigger calls nobody. -/
theorem isCalled_concat {past : List Request} {r : Request}
    (later : r ≠ .trigger ∨ .trigger ∈ past) (k : Nat) :
    IsCalled (past ++ [r]) k ↔ IsCalled past k := by
  rw [isCalled_iff, isCalled_iff]
  by_cases triggered : Request.trigger ∈ past
  · rw [untilTrigger_concat_of_triggered triggered]
    simp [triggered]
  · have other : r ≠ .trigger := later.resolve_right triggered
    simp [triggered, Ne.symm other]

/-- The first trigger calls all who have subscribed. -/
theorem isCalled_first_trigger {past : List Request} (untriggered : .trigger ∉ past) (k : Nat) :
    IsCalled (past ++ [.trigger]) k ↔ k < past.count .subscribe := by
  have front : untilTrigger (past ++ [.trigger]) = past := by
    rw [untilTrigger_append_of_untriggered untriggered]
    exact List.append_nil past
  rw [isCalled_iff, front]
  simp

theorem isDue_concat (past : List Request) (r : Request) (k : Nat) :
    IsDue (past ++ [r]) k ↔
      IsCalled (past ++ [r]) k ∧ (.receive k, some .message) ∉ transcript past ∧
        ¬ (r = .receive k ∧ ((after past).step r).value.2 = some .message) := by
  rw [IsDue, transcript_concat, List.mem_append, not_or, List.mem_singleton, Prod.mk.injEq]
  simp only [eq_comm]

/-- Nothing but a look of its own takes the message from a subscriber, and nothing but the first
trigger sends it one. -/
theorem isDue_concat_of_other {past : List Request} {r : Request} {k : Nat}
    (later : r ≠ .trigger ∨ .trigger ∈ past) (other : r ≠ .receive k) :
    IsDue (past ++ [r]) k ↔ IsDue past k := by
  rw [isDue_concat, isCalled_concat later, IsDue]
  simp [other]

/-! ## What is kept by every request -/

/-- The state of a shutdown after some requests: at most one message is sent, and those it is due to
are the subscribers that it is ahead of. -/
structure Kept (past : List Request) (s : Shutdown) : Prop where
  triggered : s.triggered = true ↔ .trigger ∈ past
  goesOn : s.channel.isOpen = true
  subscribers : s.channel.passed.length = past.count .subscribe
  once : s.channel.sent ≤ 1
  unsent : .trigger ∉ past → s.channel.sent = 0
  untold : .trigger ∉ past → ∀ k, (.receive k, some .message) ∉ transcript past
  position : ∀ k n, s.channel.passed[k]? = some n →
    n ≤ s.channel.sent ∧ (n < s.channel.sent ↔ IsDue past k)

namespace Kept

variable {past : List Request} {s : Shutdown}

/-- A subscriber finds the message that is due to it, or nothing. -/
theorem lookFrom (kept : Kept past s) {k n : Nat} (here : s.channel.passed[k]? = some n) :
    (IsDue past k ∧ s.channel.lookFrom n = .message ∨
      ¬ IsDue past k ∧ s.channel.lookFrom n = .empty) ∧
    s.channel.passedAfter n = s.channel.sent := by
  obtain ⟨behind, due⟩ := kept.position k n here
  have once := kept.once
  by_cases ahead : n < s.channel.sent
  · have last : s.channel.sent = n + 1 := by omega
    have found : s.channel.lookFrom n = .message := by
      rw [Channel.lookFrom, if_neg (by omega), if_pos last]
    refine ⟨Or.inl ⟨due.mp ahead, found⟩, ?_⟩
    rw [Channel.passedAfter, found]
    exact last.symm
  · have found : s.channel.lookFrom n = .empty := by
      rw [Channel.lookFrom, if_pos (by omega), if_pos kept.goesOn]
    refine ⟨Or.inr ⟨due.not.mp ahead, found⟩, ?_⟩
    rw [Channel.passedAfter, found]
    show n = s.channel.sent
    omega

theorem lt_of_position (kept : Kept past s) {k n : Nat} (here : s.channel.passed[k]? = some n) :
    k < past.count .subscribe := by
  rw [← kept.subscribers]
  exact (List.getElem?_eq_some_iff.mp here).1

/-- A request that is not the first trigger sends nothing, so it is enough to see whom it moves. -/
theorem carryOver {s' : Shutdown} {r : Request} (kept : Kept past s)
    (later : r ≠ .trigger ∨ .trigger ∈ past) (triggered : s'.triggered = s.triggered)
    (goesOn : s'.channel.isOpen = s.channel.isOpen) (sent : s'.channel.sent = s.channel.sent)
    (subscribers : s'.channel.passed.length = (past ++ [r]).count .subscribe)
    (untold : .trigger ∉ past → ((after past).step r).value.2 ≠ some .message)
    (position : ∀ k n, s'.channel.passed[k]? = some n →
      n ≤ s.channel.sent ∧ (n < s.channel.sent ↔ IsDue (past ++ [r]) k)) :
    Kept (past ++ [r]) s' := by
  have same : Request.trigger ∈ past ++ [r] ↔ .trigger ∈ past := by
    rw [List.mem_append, List.mem_singleton]
    constructor
    · rintro (before | first)
      · exact before
      · exact later.resolve_left fun other => other first.symm
    · exact Or.inl
  refine ⟨?_, goesOn.trans kept.goesOn, subscribers, ?_, ?_, ?_, ?_⟩
  · rw [same, triggered]
    exact kept.triggered
  · rw [sent]
    exact kept.once
  · rw [same, sent]
    exact kept.unsent
  · intro untriggered k told
    rw [same] at untriggered
    rw [transcript_concat, List.mem_append, List.mem_singleton, Prod.mk.injEq] at told
    rcases told with before | ⟨_, now⟩
    · exact kept.untold untriggered k before
    · exact untold untriggered now.symm
  · rw [sent]
    exact position

theorem subscribe (kept : Kept past s) : Kept (past ++ [.subscribe]) s.subscribe := by
  have due : ∀ k, IsDue (past ++ [.subscribe]) k ↔ IsDue past k := fun k =>
    isDue_concat_of_other (Or.inl (by simp)) (by simp)
  refine kept.carryOver (Or.inl (by simp)) rfl rfl rfl ?_ ?_ ?_
  · rw [List.count_append, ← kept.subscribers]
    exact List.length_append
  · rintro _ ⟨⟩
  · intro k n here
    rw [due]
    have here : (s.channel.passed ++ [s.channel.sent])[k]? = some n := here
    by_cases old : k < s.channel.passed.length
    · rw [List.getElem?_append_left old] at here
      exact kept.position k n here
    · -- A new subscriber begins behind all messages, and was not there to be called.
      rw [List.getElem?_append_right (by omega), List.getElem?_singleton] at here
      obtain ⟨_, last⟩ := Option.ite_none_right_eq_some.mp here
      obtain rfl := Option.some.inj last
      refine ⟨Nat.le_refl _, ?_⟩
      constructor
      · intro ahead
        exact absurd ahead (Nat.lt_irrefl _)
      · intro due
        have present := due.1.lt
        rw [kept.subscribers] at old
        exact absurd present old

/-- A later trigger does nothing. -/
theorem triggerAgain (kept : Kept past s) (triggered : .trigger ∈ past) :
    Kept (past ++ [.trigger]) s.trigger.value := by
  have unchanged : s.trigger.value = s := by
    rw [trigger, if_pos (kept.triggered.mpr triggered)]
    rfl
  rw [unchanged]
  refine kept.carryOver (Or.inr triggered) rfl rfl rfl ?_ ?_ ?_
  · rw [List.count_append]
    exact kept.subscribers
  · intro untriggered
    exact absurd triggered untriggered
  · intro k n here
    rw [isDue_concat_of_other (Or.inr triggered) (by simp)]
    exact kept.position k n here

/-- The first trigger sends the message to all who have subscribed, if there are any. -/
theorem triggerFirst (kept : Kept past s) (untriggered : .trigger ∉ past) :
    Kept (past ++ [.trigger]) s.trigger.value := by
  have fresh : s.triggered = false := by
    rw [Bool.eq_false_iff, ne_eq, kept.triggered]
    exact untriggered
  have sends : s.trigger.value = ⟨true, s.channel.send⟩ := by
    rw [trigger, fresh]
    rfl
  have announced : Request.trigger ∈ past ++ [.trigger] := by simp
  have unsent := kept.unsent untriggered
  have passed : s.channel.send.passed = s.channel.passed := by
    rw [Channel.send]
    split <;> rfl
  have sent : s.channel.send.sent = if s.channel.passed.isEmpty then 0 else 1 := by
    rw [Channel.send]
    split
    · exact unsent
    · simp only [unsent]
  rw [sends]
  refine ⟨?_, ?_, ?_, ?_, ?_, ?_, ?_⟩
  · exact ⟨fun _ => announced, fun _ => rfl⟩
  · show s.channel.send.isOpen = true
    rw [Channel.send]
    split
    · exact kept.goesOn
    · exact kept.goesOn
  · show s.channel.send.passed.length = _
    rw [passed, List.count_append]
    exact kept.subscribers
  · show s.channel.send.sent ≤ 1
    rw [sent]
    split <;> omega
  · intro still
    exact absurd announced still
  · intro still
    exact absurd announced still
  · intro k n here
    have here : s.channel.send.passed[k]? = some n := here
    show n ≤ s.channel.send.sent ∧ (n < s.channel.send.sent ↔ _)
    rw [passed] at here
    have present := kept.lt_of_position here
    have behind := (kept.position k n here).1
    have some : s.channel.passed.isEmpty = false := by
      rw [List.isEmpty_eq_false_iff_exists_mem]
      exact ⟨n, List.mem_of_getElem? here⟩
    have due : IsDue (past ++ [.trigger]) k := by
      rw [isDue_concat, isCalled_first_trigger untriggered]
      exact ⟨present, kept.untold untriggered k, by simp⟩
    rw [sent, some]
    refine ⟨by omega, fun _ => due, fun _ => ?_⟩
    show n < 1
    omega

/-- What a look finds is none for somebody who has not subscribed, and otherwise the message if it
is due, and nothing if it is not. -/
theorem receipt (kept : Kept past s) (k : Nat) :
    (past.count .subscribe ≤ k ∧ (s.receive k).2 = none) ∨
      (k < past.count .subscribe ∧
        (IsDue past k ∧ (s.receive k).2 = some .message ∨
          ¬ IsDue past k ∧ (s.receive k).2 = some .empty)) := by
  cases here : s.channel.passed[k]? with
  | none =>
    left
    rw [List.getElem?_eq_none_iff, kept.subscribers] at here
    refine ⟨here, ?_⟩
    simp [Shutdown.receive, Channel.receive, kept.subscribers, here]
  | some n =>
    right
    refine ⟨kept.lt_of_position here, ?_⟩
    simp only [Shutdown.receive, Channel.receive, here, Option.some.injEq]
    exact (kept.lookFrom here).1

/-- After a look all messages are behind the one who has looked, and nobody else has moved. -/
theorem position_receive (kept : Kept past s) {j k n : Nat}
    (there : (s.receive j).1.channel.passed[k]? = some n) :
    k ≠ j ∧ s.channel.passed[k]? = some n ∨ k = j ∧ n = s.channel.sent := by
  cases here : s.channel.passed[j]? with
  | none =>
    simp only [Shutdown.receive, Channel.receive, here] at there
    refine Or.inl ⟨?_, there⟩
    rintro rfl
    rw [here] at there
    cases there
  | some m =>
    simp only [Shutdown.receive, Channel.receive, here, (kept.lookFrom here).2] at there
    by_cases own : k = j
    · subst own
      rw [List.getElem?_set_self (List.getElem?_eq_some_iff.mp here).1] at there
      exact Or.inr ⟨rfl, (Option.some.inj there).symm⟩
    · rw [List.getElem?_set_ne (Ne.symm own)] at there
      exact Or.inl ⟨own, there⟩

theorem receive_sent (s : Shutdown) (j : Nat) :
    (s.receive j).1.triggered = s.triggered ∧
      (s.receive j).1.channel.isOpen = s.channel.isOpen ∧
      (s.receive j).1.channel.sent = s.channel.sent ∧
      (s.receive j).1.channel.passed.length = s.channel.passed.length := by
  cases here : s.channel.passed[j]? with
  | none =>
    simp [Shutdown.receive, Channel.receive, here]
  | some n =>
    simp [Shutdown.receive, Channel.receive, here]

/-- A look takes the message from the one who looks, and leaves all others alone. -/
theorem receive (kept : Kept past (after past)) (j : Nat) :
    Kept (past ++ [.receive j]) ((after past).receive j).1 := by
  obtain ⟨triggered, isOpen, sent, length⟩ := receive_sent (after past) j
  have called : ∀ k, IsCalled (past ++ [.receive j]) k ↔ IsCalled past k :=
    isCalled_concat (Or.inl (by simp))
  refine kept.carryOver (Or.inl (by simp)) triggered isOpen sent ?_ ?_ ?_
  · rw [length, List.count_append]
    exact kept.subscribers
  · intro untriggered now
    have found : ((after past).receive j).2 = some .message := now
    rcases kept.receipt j with ⟨_, none⟩ | ⟨_, ⟨due, _⟩ | ⟨_, empty⟩⟩
    · rw [none] at found
      cases found
    · exact untriggered due.1.triggered
    · rw [empty] at found
      cases found
  · intro k n there
    rcases kept.position_receive there with ⟨other, here⟩ | ⟨rfl, rfl⟩
    · rw [isDue_concat_of_other (Or.inl (by simp)) (by simpa using Ne.symm other)]
      exact kept.position k n here
    · refine ⟨Nat.le_refl _, fun ahead => absurd ahead (Nat.lt_irrefl _), ?_⟩
      -- If the message was due, then this look has found it.
      intro due
      rw [isDue_concat, called] at due
      obtain ⟨isCalled, untold, unfound⟩ := due
      rcases kept.receipt k with ⟨absent, _⟩ | ⟨_, ⟨_, message⟩ | ⟨undue, _⟩⟩
      · exact absurd isCalled.lt (by omega)
      · exact absurd ⟨rfl, message⟩ unfound
      · exact absurd ⟨isCalled, untold⟩ undue

end Kept

theorem kept_after (past : List Request) : Kept past (after past) := by
  induction past using List.reverseRecOn with
  | nil =>
    refine ⟨?_, rfl, rfl, by decide, fun _ => rfl, ?_, ?_⟩
    · simp [after, run, Traced.run_nil]
    · simp [transcript]
    · simp [after, run, Traced.run_nil]
  | append_singleton past r kept =>
    rw [after_concat]
    cases r with
    | subscribe => exact kept.subscribe
    | trigger =>
      by_cases triggered : Request.trigger ∈ past
      · exact kept.triggerAgain triggered
      · exact kept.triggerFirst triggered
    | receive j => exact kept.receive j

theorem receipt_ne (past : List Request) (r : Request) :
    ((after past).step r).value.2 ≠ some .lagged ∧
      ((after past).step r).value.2 ≠ some .closed := by
  cases r with
  | subscribe => exact ⟨nofun, nofun⟩
  | trigger => exact ⟨nofun, nofun⟩
  | receive k =>
    have found : ((after past).step (.receive k)).value.2 = ((after past).receive k).2 := rfl
    rw [found]
    rcases (kept_after past).receipt k with ⟨_, none⟩ | ⟨_, ⟨_, message⟩ | ⟨_, empty⟩⟩
    · rw [none]
      exact ⟨nofun, nofun⟩
    · rw [message]
      exact ⟨nofun, nofun⟩
    · rw [empty]
      exact ⟨nofun, nofun⟩

/-- However a shutdown is asked to take subscribers, to trigger and to let subscribers look: it
counts as triggered exactly if there was a trigger. A look of a subscriber finds the message exactly
if the first trigger has come after its subscription and it has not found the message before; every
other look finds nothing, and no look finds that messages are lost or that there is nobody to send
any. -/
theorem receipts_announce_once (requests : List Request) :
    ((run {} requests).value.1.triggered = true ↔ .trigger ∈ requests) ∧
    (∀ past k later, requests = past ++ .receive k :: later → k < past.count .subscribe →
      ∃ receipt, (run {} requests).value.2[past.length]? = some (some receipt) ∧
        (receipt = .message ↔
          (∃ early late, past = early ++ .subscribe :: late ∧ early.count .subscribe = k ∧
            .trigger ∉ early ∧ .trigger ∈ late) ∧
          (.receive k, some .message) ∉ transcript past) ∧
        (receipt ≠ .message → receipt = .empty)) ∧
    (∀ receipt ∈ (run {} requests).value.2, receipt ≠ some .lagged ∧ receipt ≠ some .closed) := by
  refine ⟨(kept_after requests).triggered, ?_, ?_⟩
  · rintro past k later rfl present
    rw [receipt_eq]
    rcases (kept_after past).receipt k with ⟨absent, _⟩ | ⟨_, ⟨due, found⟩ | ⟨undue, found⟩⟩
    · omega
    · exact ⟨.message, congrArg some found, ⟨fun _ => due, fun _ => rfl⟩,
        fun other => absurd rfl other⟩
    · exact ⟨.empty, congrArg some found, ⟨nofun, fun due => absurd due undue⟩, fun _ => rfl⟩
  · intro receipt mem
    obtain ⟨i, here⟩ := List.getElem?_of_mem mem
    have inside : i < requests.length := by
      rw [← length_receipts {} requests]
      exact (List.getElem?_eq_some_iff.mp here).1
    have split : requests = requests.take i ++ requests[i] :: requests.drop (i + 1) := by simp
    have found := receipt_eq (requests.take i) requests[i] (requests.drop (i + 1))
    rw [← split, List.length_take_of_le (by omega), here] at found
    rw [Option.some.inj found]
    exact receipt_ne _ _

/-- Two subscribers on either side of the first of two triggers: one finds the message once. -/
example :
    (run {} [.subscribe, .trigger, .subscribe, .trigger, .receive 0, .receive 0,
      .receive 1]).value.2 =
      [none, none, none, none, some .message, some .empty, some .empty] := by decide

end Egress.Shutdown
