import Egress.Payload.Hydrate

/-!
# Hydration counts nothing

Making a snapshot of a payload reports what could not be used and updates no figure. This goes along
the functions that read the single fields.
-/

namespace Egress

theorem Traced.metrics_all {α : Type} {xs : List (Traced α)} (h : ∀ x ∈ xs, x.metrics = []) :
    (Traced.all xs).metrics = [] := by
  induction xs with
  | nil => rfl
  | cons x xs ih =>
    simp only [Traced.all, Traced.metrics_bind, Traced.metrics_pure, List.append_nil]
    rw [h x List.mem_cons_self, ih fun y hy => h y (List.mem_cons_of_mem x hy)]
    rfl

namespace Bypass

@[simp] theorem Rule.metrics_compile (text : String) : (Rule.compile text).metrics = [] := by
  unfold Rule.compile
  split <;> rfl

@[simp] theorem metrics_rulesOf (input : Input) : (rulesOf input).metrics = [] := by
  apply Traced.metrics_all
  simp

@[simp] theorem metrics_entryText (v : Json) : (entryText v).metrics = [] := by
  cases v <;> rfl

@[simp] theorem metrics_entryTexts (vs : List Json) : (entryTexts vs).metrics = [] := by
  induction vs with
  | nil => rfl
  | cons v vs ih => simp [entryTexts, ih]

@[simp] theorem Input.metrics_ofJson (v : Option Json) : (Input.ofJson v).metrics = [] := by
  unfold Input.ofJson
  split <;> simp

end Bypass

namespace Payload

@[simp] theorem metrics_readEnabled (fields : Fields) : (readEnabled fields).metrics = [] := by
  unfold readEnabled readMode
  repeat' split
  all_goals rfl

@[simp] theorem metrics_readFlag (fields : Fields) (key : String) :
    (readFlag fields key).metrics = [] := by
  unfold readFlag
  split <;> rfl

@[simp] theorem metrics_readEndpoint (hostField portField : String) (host port : Option Json) :
    (readEndpoint hostField portField host port).metrics = [] := by
  have readsHost : (readHost hostField host).metrics = [] := by
    unfold readHost
    split <;> rfl
  have readsPort : (readPort portField port).metrics = [] := by
    unfold readPort
    repeat' split
    all_goals rfl
  simp [readEndpoint, readsHost, readsPort]

@[simp] theorem metrics_readEndpoints (fields : Fields) (useHttpForHttps : Bool) :
    (readEndpoints fields useHttpForHttps).metrics = [] := by
  unfold readEndpoints
  split
  · unfold readNested readSingleProxy
    split <;> simp
  · unfold readFlat readHttp readHttps
    split <;> simp

@[simp] theorem metrics_hydrate (payload : Json) : (hydrate payload).metrics = [] := by
  unfold hydrate
  split
  · simp [hydrateFields, readBypass]
  · simp

end Payload

end Egress
