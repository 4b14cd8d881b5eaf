import Egress.Proofs.FileChanges
import Egress.Proofs.Hydration
import Egress.Proofs.Occasions

/-!
# What a watcher passes on

Files of a directory are replaced, renamed and removed, and the system tells the watcher of it. All
that the watcher relies on is that a notice names its payload exactly if a file of that name was
made, replaced or renamed; how many such notices there are, and what else is told, makes no
difference to the last snapshot that is passed on. It is that of the latest good content that came
to be at the name. A removal is told apart from a renaming, so that no reload fails when the payload
is removed, but one does when it is renamed away.

Each change is dealt with before the next one.
-/

namespace Egress

/-! ## What is told -/

namespace Directory

/-- What the system is relied on to tell of a change, as far as a name goes: that files of this name
were made, changed or renamed is told, once or more often, exactly if the change does so. -/
def IsTold (d : Directory) (name : String) (c : Change) (ns : List Notice) : Prop :=
  (∃ names, Notice.touched names ∈ ns ∧ name ∈ names) ↔ d.touches name c = true

/-- The same of a course of changes, each with what is told of it. -/
inductive AreTold (name : String) : Directory → List (Change × List Notice) → Prop where
  | nil {d : Directory} : AreTold name d []
  | cons {d : Directory} {c : Change} {ns : List Notice} {rest : List (Change × List Notice)}
      (first : d.IsTold name c ns) (later : AreTold name (d.apply c) rest) :
      AreTold name d ((c, ns) :: rest)

def applyAll (d : Directory) (steps : List (Change × List Notice)) : Directory :=
  steps.foldl (fun d step => d.apply step.1) d

def placesPut (d : Directory) (name : String) : List (Change × List Notice) → List Place
  | [] => []
  | (c, _) :: rest =>
    (if d.puts name c then [(d.apply c).place name] else []) ++ (d.apply c).placesPut name rest

theorem isTold_notices (d : Directory) (name : String) (c : Change) :
    d.IsTold name c (d.notices c) := by
  unfold IsTold
  cases c with
  | replace made bytes =>
    have touched : d.touches name (.replace made bytes) = true ↔ made = name := by
      simp [touches, puts, movesAway]
    rw [touched]
    constructor
    · rintro ⟨names, mem, named⟩
      obtain rfl : names = [made] := by simpa [notices] using mem
      exact (List.mem_singleton.mp named).symm
    · rintro rfl
      exact ⟨[made], by simp [notices], by simp⟩
  | remove gone =>
    constructor
    · rintro ⟨names, mem, _⟩
      rw [notices] at mem
      split at mem <;> simp at mem
    · intro touched
      cases touched
  | rename source target =>
    rw [touches_rename_iff]
    constructor
    · rintro ⟨names, mem, named⟩
      rw [notices] at mem
      split at mem
      · cases mem
      · next moved =>
        obtain ⟨held, differs⟩ := not_or.mp moved
        have there : (d.content? source).isSome = true := by
          rwa [Option.isNone_iff_eq_none, ← ne_eq, ← Option.isSome_iff_ne_none] at held
        refine ⟨differs, there, ?_⟩
        simp only [List.mem_cons, List.not_mem_nil, or_false, Notice.touched.injEq] at mem
        rcases mem with rfl | rfl | rfl
        · exact Or.inl (List.mem_singleton.mp named).symm
        · exact Or.inr (List.mem_singleton.mp named).symm
        · simpa [eq_comm] using named
    · rintro ⟨differs, held, named⟩
      refine ⟨[source, target], ?_, by rcases named with rfl | rfl <;> simp⟩
      have moved : ¬ ((d.content? source).isNone = true ∨ source = target) := by
        rintro (missing | same)
        · rw [Option.isNone_iff_eq_none] at missing
          rw [missing] at held
          cases held
        · exact differs same
      rw [notices, if_neg moved]
      simp

/-- Changes with the notices that are given of each when it is made. -/
def withNotices (d : Directory) : List Change → List (Change × List Notice)
  | [] => []
  | c :: rest => (c, d.notices c) :: (d.apply c).withNotices rest

theorem areTold_withNotices (d : Directory) (name : String) (changes : List Change) :
    AreTold name d (d.withNotices changes) := by
  induction changes generalizing d with
  | nil => exact .nil
  | cons c changes ih => exact .cons (d.isTold_notices name c) (ih (d.apply c))

theorem AreTold.of_append {name : String} {d : Directory}
    {before later : List (Change × List Notice)} (told : AreTold name d (before ++ later)) :
    AreTold name (d.applyAll before) later := by
  induction before generalizing d with
  | nil => exact told
  | cons step before ih =>
    cases told with
    | cons first rest => exact ih rest

/-- What is at a name after some changes was put there last, or was there before if nothing was. -/
theorem content?_applyAll {name : String} (isName : IsFileName name) {d : Directory}
    {steps : List (Change × List Notice)} {bytes : List UInt8}
    (held : (d.applyAll steps).content? name = some bytes) :
    (d.placesPut name steps).getLast? = some (.file bytes) ∨
      d.placesPut name steps = [] ∧ d.content? name = some bytes := by
  induction steps generalizing d with
  | nil => exact Or.inr ⟨rfl, held⟩
  | cons step rest ih =>
    obtain ⟨c, ns⟩ := step
    rcases ih held with later | ⟨none, before⟩
    · left
      rw [placesPut, List.getLast?_append, later]
      rfl
    · cases put : d.puts name c with
      | true =>
        left
        rw [placesPut, none, put, isName.place_of_content before]
        rfl
      | false =>
        right
        refine ⟨?_, content?_of_apply put before⟩
        rw [placesPut, none, put]
        rfl

end Directory

/-! ## One change -/

namespace Watcher

def followAll (w : Watcher) :
    Directory → List (Change × List Notice) → Traced (Directory × List Config) :=
  Traced.run id fun d told => w.followTold d told.1 told.2

theorem reload_metrics (place : Place) :
    (reload place).metrics = [.reload (Payload.snapshot? place).isSome] := by
  unfold reload Payload.snapshot? Payload.load
  cases Payload.read place with
  | error e => rfl
  | ok payload =>
    simp only [Except.map, Traced.metrics_bind, Payload.metrics_hydrate]
    rfl

section Notices

variable (w : Watcher) (d : Directory)

theorem observe_value (n : Notice) :
    (w.observe d n).value =
      if n.concerns w.name then Payload.snapshot? (d.place w.path) else none := by
  unfold observe
  split
  · exact reload_value _
  · rfl

theorem observe_metrics (n : Notice) :
    (w.observe d n).metrics =
      if n.concerns w.name then [.reload (Payload.snapshot? (d.place w.path)).isSome] else [] := by
  unfold observe
  split
  · exact reload_metrics _
  · rfl

/-- Every notice that concerns the payload passes on the same, since all are handled at rest. -/
theorem observeAll_value (ns : List Notice) :
    (w.observeAll d ns).value = (Payload.snapshot? (d.place w.path)).elim []
      (List.replicate (ns.countP (·.concerns w.name))) := by
  induction ns with
  | nil => cases Payload.snapshot? (d.place w.path) <;> rfl
  | cons n ns ih =>
    simp only [observeAll, Traced.value_bind, Traced.value_pure, ih, observe_value]
    by_cases concerned : n.concerns w.name = true
    · cases Payload.snapshot? (d.place w.path) <;>
        simp [concerned, List.replicate_succ]
    · simp [concerned]

theorem observeAll_metrics (ns : List Notice) :
    (w.observeAll d ns).metrics = List.replicate (ns.countP (·.concerns w.name))
      (.reload (Payload.snapshot? (d.place w.path)).isSome) := by
  induction ns with
  | nil => rfl
  | cons n ns ih =>
    simp only [observeAll, Traced.metrics_bind, Traced.metrics_pure, ih, observe_metrics]
    by_cases concerned : n.concerns w.name = true
    · simp [concerned, List.replicate_succ]
    · simp [concerned]

end Notices

theorem countP_pos_iff_touches {d : Directory} {name : String} {c : Change} {ns : List Notice}
    (told : d.IsTold name c ns) :
    0 < ns.countP (·.concerns name) ↔ d.touches name c = true := by
  rw [List.countP_pos_iff]
  refine Iff.trans ?_ told
  constructor
  · rintro ⟨n, mem, concerned⟩
    cases n with
    | touched names => exact ⟨names, mem, List.contains_iff_mem.mp concerned⟩
    | removed => cases concerned
  · rintro ⟨names, mem, named⟩
    exact ⟨.touched names, mem, List.contains_iff_mem.mpr named⟩

/-- How a watcher of a name deals with a change of the directory. -/
structure Handles (name : String) (d : Directory) (c : Change)
    (result : Traced (Directory × List Config)) : Prop where
  directory : result.value.1 = d.apply c
  /-- Nothing is reloaded because of a removal, or of a change that is about other names. -/
  apart : d.touches name c = false → result.value.2 = [] ∧ result.metrics = []
  /-- A load that fails passes nothing on and is counted as failed, once or more often. -/
  failed : d.touches name c = true → Payload.snapshot? ((d.apply c).place name) = none →
    result.value.2 = [] ∧ ∃ k, result.metrics = List.replicate (k + 1) (.reload false)
  loaded : ∀ config, d.touches name c = true →
    Payload.snapshot? ((d.apply c).place name) = some config →
    ∃ k, result.value.2 = List.replicate (k + 1) config ∧
      result.metrics = List.replicate (k + 1) (.reload true)
  /-- Nothing can be loaded when the payload is renamed away. -/
  movedAway : d.movesAway name c = true → Payload.snapshot? ((d.apply c).place name) = none

variable {name : String} {d : Directory}

theorem handles_followTold (isName : IsFileName name) {c : Change} {ns : List Notice}
    (told : d.IsTold name c ns) :
    Handles name d c ((⟨name, name⟩ : Watcher).followTold d c ns) := by
  have concerned := countP_pos_iff_touches told
  have sent := observeAll_value ⟨name, name⟩ (d.apply c) ns
  have counted := observeAll_metrics ⟨name, name⟩ (d.apply c) ns
  have metrics : ((⟨name, name⟩ : Watcher).followTold d c ns).metrics =
      ((⟨name, name⟩ : Watcher).observeAll (d.apply c) ns).metrics := Traced.metrics_map _ _
  refine ⟨rfl, ?_, ?_, ?_, ?_⟩
  · intro untouched
    have none : ns.countP (·.concerns name) = 0 := by
      rw [untouched] at concerned
      exact Nat.eq_zero_of_not_pos fun some => Bool.false_ne_true (concerned.mp some)
    rw [none] at sent counted
    refine ⟨sent.trans ?_, metrics.trans counted⟩
    cases Payload.snapshot? _ <;> rfl
  · intro touched fails
    obtain ⟨k, count⟩ := Nat.exists_eq_add_one.mpr (concerned.mpr touched)
    rw [fails] at sent
    rw [count, fails] at counted
    exact ⟨sent, k, metrics.trans counted⟩
  · intro config touched loads
    obtain ⟨k, count⟩ := Nat.exists_eq_add_one.mpr (concerned.mpr touched)
    rw [count, loads] at sent counted
    exact ⟨k, sent, metrics.trans counted⟩
  · intro moves
    exact isName.snapshot?_place_of_missing (Directory.content?_apply_of_movesAway moves)

/-! ## A course of changes -/

theorem Handles.getLast?_sent {c : Change} {result : Traced (Directory × List Config)}
    (handles : Handles name d c result) :
    result.value.2.getLast? =
      if d.puts name c then Payload.snapshot? ((d.apply c).place name) else none := by
  cases touched : d.touches name c with
  | false =>
    have keeps : d.puts name c = false := (Bool.or_eq_false_iff.mp touched).1
    rw [(handles.apart touched).1, keeps]
    rfl
  | true =>
    cases loads : Payload.snapshot? ((d.apply c).place name) with
    | none =>
      rw [(handles.failed touched loads).1, ite_self]
      rfl
    | some config =>
      obtain ⟨k, sent, _⟩ := handles.loaded config touched loads
      have put : d.puts name c = true := by
        rcases Bool.or_eq_true_iff.mp touched with put | moves
        · exact put
        · rw [handles.movedAway moves] at loads
          cases loads
      rw [sent, put, List.getLast?_replicate]
      rfl

theorem followAll_cons (w : Watcher) (d : Directory) (c : Change) (ns : List Notice)
    (rest : List (Change × List Notice)) :
    (w.followAll d ((c, ns) :: rest)).value =
      ((w.followAll (d.apply c) rest).value.1,
        (w.followTold d c ns).value.2 ++ (w.followAll (d.apply c) rest).value.2) := rfl

theorem followAll_directory (w : Watcher) (d : Directory) (steps : List (Change × List Notice)) :
    (w.followAll d steps).value.1 = d.applyAll steps := by
  induction steps generalizing d with
  | nil => rfl
  | cons step rest ih =>
    obtain ⟨c, ns⟩ := step
    rw [followAll_cons]
    exact ih (d.apply c)

/-- The last snapshot passed on is that of the latest good content put at the name. -/
theorem getLast?_followAll (isName : IsFileName name) {steps : List (Change × List Notice)}
    (told : Directory.AreTold name d steps) :
    ((⟨name, name⟩ : Watcher).followAll d steps).value.2.getLast? =
      Occasion.lastLoadable (d.placesPut name steps) := by
  induction told with
  | nil => rfl
  | @cons d c ns rest first later ih =>
    have last := (handles_followTold isName first).getLast?_sent
    have here : Occasion.lastLoadable (if d.puts name c then [(d.apply c).place name] else []) =
        if d.puts name c then Payload.snapshot? ((d.apply c).place name) else none := by
      split
      · simp [Occasion.lastLoadable]
      · rfl
    rw [followAll_cons, List.getLast?_append, ih, last, Directory.placesPut,
      Occasion.lastLoadable_append, here]

/-- A watcher keeps up with its payload. Whatever is done to the files of its directory, the last
snapshot that it passes on is that of the latest loadable content that was put at the name of the
payload, and there is none if there was no such content; if something was put there and what is
there now can be loaded, it is that of what is there now. Each change is handled as it should be. -/
theorem tracks_payload {steps : List (Change × List Notice)} (isName : IsFileName name)
    (told : Directory.AreTold name d steps) :
    ∃ w, Watcher.start d name = .ok w ∧
      (w.value.followAll d steps).value.2.getLast? =
        Occasion.lastLoadable (d.placesPut name steps) ∧
      (d.placesPut name steps ≠ [] → ∀ config,
        Payload.snapshot? ((w.value.followAll d steps).value.1.place name) = some config →
          (w.value.followAll d steps).value.2.getLast? = some config) ∧
      (∀ before c ns later, steps = before ++ (c, ns) :: later →
        Handles name (d.applyAll before) c (w.value.followTold (d.applyAll before) c ns)) := by
  obtain ⟨w, started, watcher⟩ := isName.exists_start d
  refine ⟨w, started, ?_⟩
  rw [watcher]
  have last := getLast?_followAll isName told
  refine ⟨last, ?_, ?_⟩
  · intro some config loads
    rw [followAll_directory] at loads
    rw [last]
    cases held : (d.applyAll steps).content? name with
    | none =>
      rw [isName.snapshot?_place_of_missing held] at loads
      cases loads
    | some bytes =>
      rw [isName.place_of_content held] at loads
      rcases Directory.content?_applyAll isName held with put | ⟨none, _⟩
      · obtain ⟨front, places⟩ := List.getLast?_eq_some_iff.mp put
        rw [places, Occasion.lastLoadable_append]
        simp [Occasion.lastLoadable, loads]
      · exact absurd none some
  · rintro before c ns later rfl
    cases told.of_append with
    | cons first rest => exact handles_followTold isName first

/-- A directory whose payload cannot be loaded. -/
def broken : Directory := ⟨[("p.json", [123])]⟩

/-- A good file is renamed over the payload; what comes later cannot be loaded or is no change of
it. -/
def renamedOver : List Change :=
  [.replace "new" (Text.Utf8.encode "\x7b\x7d"), .rename "new" "p.json", .replace "p.json" [123],
    .rename "p.json" "old", .remove "old"]

theorem tracks_payload_renamedOver :
    IsFileName "p.json" ∧
      Directory.AreTold "p.json" broken (broken.withNotices renamedOver) ∧
      ∃ w, Watcher.start broken "p.json" = .ok w ∧
        (w.value.followAll broken (broken.withNotices renamedOver)).value.2.getLast? =
          some (Payload.hydrate (.object [])).value := by
  have isName : IsFileName "p.json" := ⟨by decide, by decide, by decide, by decide⟩
  have told := broken.areTold_withNotices "p.json" renamedOver
  have last : Occasion.lastLoadable
      (broken.placesPut "p.json" (broken.withNotices renamedOver)) =
        some (Payload.hydrate (.object [])).value := by
    decide +kernel
  obtain ⟨w, started, sent, _⟩ := tracks_payload isName told
  exact ⟨isName, told, w, started, sent.trans last⟩

end Watcher

end Egress
