import PointForce.Actuator.Basic

namespace PointForce

theorem Buffer.overwrite_of_length_eq {α : Type} {xs ys : List α} (h : xs.length = ys.length) :
    overwrite xs ys = xs := by
  rw [overwrite_eq_append (Nat.le_of_eq h), h, List.drop_length, List.append_nil]

theorem Mode.dimension_pos {α : Type} : ∀ m : Mode α, 0 < m.dimension
  | .free    => Nat.succ_pos 2
  | .fixed _ => Nat.one_pos

theorem Mode.dimension_le {α : Type} : ∀ m : Mode α, m.dimension ≤ 3
  | .free    => Nat.le_refl 3
  | .fixed _ => Nat.le_add_left 1 2

namespace State

variable {α : Type} [Scalar α] {s : State α}

-- One value for each axis, also behind a bound that is not active.
structure Shaped (s : State α) : Prop where
  force : s.force.length = s.dimension
  lower : s.lower.values.length = s.dimension
  upper : s.upper.values.length = s.dimension
  guess : s.guess.values.length = s.dimension

omit [Scalar α] in
theorem length_broadcast (limit : Option α) (values : List α) :
    (broadcast limit values).length = values.length := by
  cases limit <;> simp [broadcast]

omit [Scalar α] in
@[simp]
theorem length_seed (init : Option α) (values : List α) :
    (seed init values).length = values.length := by
  cases init <;> simp [seed]

theorem length_limit (c : Config α) (s : State α) :
    (s.limit c).lower.values.length = s.lower.values.length ∧
    (s.limit c).upper.values.length = s.upper.values.length := by
  simp only [limit]
  cases c.maxForceVariation
  case none       => simp [length_broadcast]
  case some delta => simp [length_broadcast, length_recentre]

namespace Shaped

theorem unresolved : (unresolved : State α).Shaped where
  force := rfl
  lower := rfl
  upper := rfl
  guess := rfl

theorem limit (h : s.Shaped) (c : Config α) : (s.limit c).Shaped where
  force := h.force
  lower := (length_limit c s).left.trans h.lower
  upper := (length_limit c s).right.trans h.upper
  guess := h.guess

omit [Scalar α] in
theorem activate (h : s.Shaped) (c : Config α) : (s.activate c).Shaped where
  force := h.force
  lower := h.lower
  upper := h.upper
  guess := h.guess

omit [Scalar α] in
theorem overwrite (h : s.Shaped) (multipliers : List α) (displacement : α) :
    Shaped { s with displacement, force := Buffer.overwrite multipliers s.force } where
  force := (Buffer.length_overwrite ..).trans h.force
  lower := h.lower
  upper := h.upper
  guess := h.guess

theorem resolve [Elementary α] (c : Config α) (s : State α) : (s.resolve c).Shaped where
  force := List.length_replicate
  lower := Buffer.length_resize ..
  upper := Buffer.length_resize ..
  guess := (length_seed ..).trans (Buffer.length_resize ..)

end Shaped
end State

namespace Actuator

variable {α : Type} [Scalar α] {a : Actuator α}

theorem force_store {multipliers : List α} (h : multipliers.length = a.force.length)
    (deltas : List α) : (a.store multipliers deltas).value.force = multipliers :=
  Buffer.overwrite_of_length_eq h

theorem firstRow_store (a : Actuator α) (multipliers deltas : List α) :
    (a.store multipliers deltas).value.state.firstRow = a.state.firstRow :=
  rfl

theorem rowCount_store (a : Actuator α) (multipliers deltas : List α) :
    (a.store multipliers deltas).value.state.rowCount = a.state.rowCount :=
  rfl

variable [Elementary α]

theorem firstRow_reinit (a : Actuator α) : a.reinit.value.state.firstRow = a.state.firstRow :=
  rfl

theorem rowCount_reinit (a : Actuator α) : a.reinit.value.state.rowCount = a.config.dimension :=
  rfl

structure Resolved (a : Actuator α) : Prop where
  dimension : a.dimension = a.config.dimension
  rowCount  : a.state.rowCount = a.dimension

theorem Resolved.reinit (a : Actuator α) (active : Bool) :
    Resolved { a.reinit.value with active } where
  dimension := rfl
  rowCount  := rfl

theorem Resolved.store (h : a.Resolved) (multipliers deltas : List α) :
    (a.store multipliers deltas).value.Resolved where
  dimension := h.dimension
  rowCount  := h.rowCount

-- What a build does to an actuator depends neither on the body nor on the matrix.
def takeRows (row : Nat) (a : Actuator α) : Actuator α :=
  { a with state := { a.state with firstRow := row, rowCount := a.mode.dimension } }

theorem build_eq (a : Actuator α) (body : Body α) (m : ConstraintMatrix α) (row : Nat) :
    a.build body m row = (a.takeRows row, writeRows (a.points body) a.mode.rowDirections row m) :=
  rfl

theorem Resolved.takeRows (h : a.Resolved) (row : Nat) : (a.takeRows row).Resolved where
  dimension := h.dimension
  rowCount  := h.dimension.symm

theorem init_of_fault {fault : ConfigFault α} (h : a.config.fault? = some fault)
    (body : Option (Body α)) :
    a.init body = (.error fault, { value := { a with active := false } }) := by
  rw [init, h]

theorem init_of_valid (h : a.config.Valid) (body : Option (Body α)) :
    (a.init body).1 = .ok () ∧
    (a.init body).2.value = { a.reinit.value with active := body.isSome } := by
  rw [init, Config.fault?_eq_none_iff.mpr h]
  exact ⟨rfl, rfl⟩

theorem config_init (a : Actuator α) (body : Option (Body α)) :
    (a.init body).2.value.config = a.config := by
  rw [init]
  split <;> rfl

-- The state belongs to the configuration at the latest when rows can be given to it.
structure WellFormed (a : Actuator α) : Prop where
  shaped   : a.state.Shaped
  resolved : a.active → a.Resolved

namespace WellFormed

theorem new (name : String) (config : Config α) : (new name config).WellFormed where
  shaped   := .unresolved
  resolved := nofun

theorem init (h : a.WellFormed) (body : Option (Body α)) : (a.init body).2.value.WellFormed := by
  cases hf : a.config.fault?
  case some fault =>
    rw [init_of_fault hf]
    exact ⟨h.shaped, nofun⟩
  case none =>
    have ⟨_, value⟩ := init_of_valid (Config.fault?_eq_none_iff.mp hf) body
    rw [value]
    exact ⟨.limit (.activate (.resolve ..) _) _, fun _ => .reinit a _⟩

theorem store (h : a.WellFormed) (multipliers deltas : List α) :
    (a.store multipliers deltas).value.WellFormed where
  shaped   := h.shaped.overwrite multipliers _ |>.limit a.config
  resolved := fun active => (h.resolved active).store multipliers deltas

theorem takeRows (h : a.WellFormed) (row : Nat) : (a.takeRows row).WellFormed where
  shaped   := ⟨h.shaped.force, h.shaped.lower, h.shaped.upper, h.shaped.guess⟩
  resolved := fun active => (h.resolved active).takeRows row

end WellFormed

end Actuator
end PointForce
