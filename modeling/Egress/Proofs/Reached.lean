import Egress.Proofs.Generations

/-!
# Snapshots that a session comes to

A session that begins with a payload makes snapshots live in three ways: from a payload it is given,
from one that it loads, and from a snapshot that is held. Stamping apart, each of them is therefore
the snapshot of some payload. What holds of all of those, whatever their generation, holds of the
live snapshot and of every held one after any requests.
-/

namespace Egress

/-- A live state that begins with a payload, or with the snapshot of one. -/
def Live.Origin.IsHydrated : Origin → Prop
  | config c => ∃ payload, c = (Payload.hydrate payload).value
  | payload _ => True
  | unset => True

/-- A property of the snapshots of all payloads that no stamp changes. -/
structure Config.IsLasting (P : Config → Prop) : Prop where
  hydrated : ∀ payload, P (Payload.hydrate payload).value
  stamped : ∀ c generation, P c → P (c.stamped generation)

namespace Session

/-- The live snapshot and all held ones have a property. -/
structure Throughout (P : Config → Prop) (s : Session) : Prop where
  live : P s.live.current
  held : ∀ c ∈ s.held, P c

/-- A request holds at most the live snapshot besides what is held. -/
theorem mem_held_step {s : Session} {r : Request} {c : Config}
    (held : c ∈ (s.step r).value.1.held) : c ∈ s.held ∨ c = s.live.current := by
  cases next : s.replacement? r with
  | some c' =>
    rw [(step_of_replacement next).1] at held
    exact Or.inl held
  | none =>
    cases r with
    | hold => simpa [step] using held
    | apply => cases next
    | reload place =>
      cases load : Payload.load place with
      | error e =>
        simp only [step, Live.reload, load, Except.map] at held
        exact Or.inl held
      | ok t => simp [replacement?, load, Except.toOption] at next
    | route | line | «show» => exact Or.inl held
    | routeHeld index | showHeld index | restoreHeld index =>
      cases found : s.held[index]? <;>
        simp only [step, withHeld, found] at held <;> exact Or.inl held

variable {P : Config → Prop} {s : Session}

theorem Throughout.replacement (lasting : Config.IsLasting P) (all : s.Throughout P) {r : Request}
    {c : Config} (h : s.replacement? r = some c) : P c := by
  cases r with
  | apply payload =>
    obtain rfl := Option.some.inj h
    exact lasting.hydrated payload
  | reload place =>
    simp only [replacement?, Payload.load] at h
    cases read : Payload.read place with
    | error e =>
      rw [read] at h
      cases h
    | ok payload =>
      rw [read] at h
      obtain rfl := Option.some.inj h
      exact lasting.hydrated payload
  | restoreHeld index => exact all.held c (List.mem_of_getElem? h)
  | route | line | hold | routeHeld | showHeld | «show» => cases h

theorem Throughout.step (lasting : Config.IsLasting P) (all : s.Throughout P) (r : Request) :
    (s.step r).value.1.Throughout P := by
  constructor
  · cases h : s.replacement? r with
    | none =>
      rw [(step_of_no_replacement h).1]
      exact all.live
    | some c =>
      rw [(step_of_replacement h).1]
      exact lasting.stamped _ _ (all.replacement lasting h)
  · intro c held
    rcases mem_held_step held with before | rfl
    · exact all.held c before
    · exact all.live

theorem Throughout.run (lasting : Config.IsLasting P) (all : s.Throughout P) (rs : List Request) :
    (s.run rs).value.1.Throughout P :=
  Traced.run_invariant _ _ (fun r _ _ before => before.step lasting r) all

theorem throughout_ofOrigin (lasting : Config.IsLasting P) {o : Live.Origin}
    (hydrated : o.IsHydrated) : (ofOrigin o).value.Throughout P := by
  refine ⟨?_, fun c held => by cases held⟩
  cases o with
  | config c =>
    obtain ⟨payload, rfl⟩ := hydrated
    exact lasting.stamped _ _ (lasting.hydrated payload)
  | payload p => exact lasting.stamped _ _ (lasting.hydrated p)
  | unset => exact lasting.stamped _ _ (lasting.hydrated .null)

/-- What holds of the snapshots of all payloads holds of every snapshot that requests can come
to. -/
theorem throughout_history (lasting : Config.IsLasting P) {o : Live.Origin}
    (hydrated : o.IsHydrated) (rs : List Request) : (history o rs).value.1.Throughout P :=
  (throughout_ofOrigin lasting hydrated).run lasting rs

end Session

end Egress
