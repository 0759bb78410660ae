import PointForce.Proofs.Actuator.Operations

namespace PointForce.Actuator

variable {α : Type} [Scalar α] [Elementary α] {a : Actuator α}

theorem setConfig_of_valid {config : Config α} (h : config.Valid) (a : Actuator α) :
    a.setConfig config = .ok { a with config }.reinit := by
  rw [setConfig, Config.fault?_eq_none_iff.mpr h]

theorem setConfig_of_fault {config : Config α} {fault : ConfigFault α}
    (h : config.fault? = some fault) (a : Actuator α) : a.setConfig config = .error fault := by
  rw [setConfig, h]

inductive Call (α : Type)
  | init (body : Option (Body α))
  | reinit
  | setConfig (config : Config α)
  | updateLimits
  | build (body : Body α) (matrix : ConstraintMatrix α) (firstRow : Nat)
  | store (multipliers deltas : List α)

def call (a : Actuator α) : Call α → Logged (Actuator α)
  | .init body                  => (a.init body).2
  | .reinit                     => a.reinit
  | .setConfig config           =>
    match a.setConfig config with
    | .ok done => done
    | .error _ => { value := a }
  | .updateLimits               => a.updateLimits
  | .build body matrix firstRow => { value := (a.build body matrix firstRow).1 }
  | .store multipliers deltas   => a.store multipliers deltas

def run (a : Actuator α) : List (Call α) → Logged (Actuator α)
  | []         => { value := a }
  | c :: calls => (a.call c).andThen (run · calls)

theorem call_init_cases (a : Actuator α) (body : Option (Body α)) :
    (a.call (.init body)).value = { a with active := false } ∨
    (a.call (.init body)).value = { a.reinit.value with active := body.isSome } := by
  cases hf : a.config.fault?
  case some fault =>
    left
    rw [call, init_of_fault hf]
  case none =>
    right
    exact (init_of_valid (Config.fault?_eq_none_iff.mp hf) body).right

theorem call_setConfig_cases (a : Actuator α) (config : Config α) :
    (a.call (.setConfig config)).value = a ∨
    config.Valid ∧ (a.call (.setConfig config)).value = { a with config }.reinit.value := by
  cases hf : config.fault?
  case some fault =>
    left
    rw [call, setConfig_of_fault hf]
  case none =>
    have valid := Config.fault?_eq_none_iff.mp hf
    right
    rw [call, setConfig_of_valid valid]
    exact ⟨valid, rfl⟩

theorem run_append (a : Actuator α) (calls later : List (Call α)) :
    (a.run (calls ++ later)).value = ((a.run calls).value.run later).value := by
  induction calls generalizing a
  case nil             => rfl
  case cons c calls ih => exact ih (a.call c).value

-- The latest call comes last, so a fact about it is met by an induction from the other end.
theorem run_concat (a : Actuator α) (calls : List (Call α)) (c : Call α) :
    (a.run (calls ++ [c])).value = ((a.run calls).value.call c).value :=
  a.run_append calls [c]

theorem run_preserves {P : Actuator α → Prop} {Q : Call α → Prop}
    (step : ∀ {a c}, Q c → P a → P (a.call c).value) {calls : List (Call α)}
    (q : ∀ c ∈ calls, Q c) (h : P a) : P (a.run calls).value := by
  induction calls generalizing a
  case nil => exact h
  case cons c calls ih =>
    have ⟨first, later⟩ := List.forall_mem_cons.mp q
    exact ih later (step first h)

end PointForce.Actuator
