import PointForce.Proofs.Limits.Band

-- The box that a solver gets to see once the configuration has decided which sides it has. It is a
-- function of the configuration and the force, whatever the state held before.

namespace PointForce

namespace Config

variable {α : Type} [Scalar α]

-- Without a maximal variation it is the absolute limit, if any.
def bound (c : Config α) (limit : Option α) (side : α → α → α) (force : List α) :
    Option (List α) :=
  match c.maxForceVariation with
  | some delta => some (force.map (side delta))
  | none       => limit.map fun x => force.map fun _ => x

def lowerBound (c : Config α) (force : List α) : Option (List α) :=
  c.bound c.minForce c.floor force

def upperBound (c : Config α) (force : List α) : Option (List α) :=
  c.bound c.maxForce c.ceiling force

end Config

namespace State

variable {α : Type} [Scalar α] {s : State α} {c : Config α}

structure Activated (c : Config α) (s : State α) : Prop where
  lower : s.lower.active = (c.minForce.isSome || c.maxForceVariation.isSome)
  upper : s.upper.active = (c.maxForce.isSome || c.maxForceVariation.isSome)

omit [Scalar α] in
theorem Activated.activate (c : Config α) (s : State α) : (s.activate c).Activated c where
  lower := rfl
  upper := rfl

theorem Activated.limit (h : s.Activated c) : (s.limit c).Activated c where
  lower := h.lower
  upper := h.upper

theorem limit_of_none (rate : c.maxForceVariation = none) (s : State α) :
    s.limit c =
      { s with
        lower := { s.lower with values := broadcast c.minForce s.lower.values }
        upper := { s.upper with values := broadcast c.maxForce s.upper.values } } := by
  simp only [limit, rate]

omit [Scalar α] in
theorem exposed_broadcast {limit : Option α} {b : Bound α} {force : List α}
    (active : b.active = limit.isSome) (length : b.values.length = force.length) :
    Bound.exposed { b with values := broadcast limit b.values } =
      limit.map fun x => force.map fun _ => x := by
  cases limit
  case none   => simpa [Bound.exposed] using active
  case some x =>
    have values : broadcast (some x) b.values = force.map fun _ => x := by
      simp only [broadcast, List.map_const', length]
    exact (if_pos active).trans (congrArg some values)

theorem Shaped.exposed_limit (h : s.Shaped) (on : s.Activated c) :
    (s.limit c).lower.exposed = c.lowerBound s.force ∧
    (s.limit c).upper.exposed = c.upperBound s.force := by
  rw [Config.lowerBound, Config.upperBound, Config.bound, Config.bound]
  cases rate : c.maxForceVariation
  case some delta =>
    have lower : s.lower.active := by rw [on.lower, rate, Option.isSome_some, Bool.or_true]
    have upper : s.upper.active := by rw [on.upper, rate, Option.isSome_some, Bool.or_true]
    rw [h.limit_eq rate]
    exact ⟨if_pos lower, if_pos upper⟩
  case none =>
    have lower : s.lower.active = c.minForce.isSome := by
      rw [on.lower, rate, Option.isSome_none, Bool.or_false]
    have upper : s.upper.active = c.maxForce.isSome := by
      rw [on.upper, rate, Option.isSome_none, Bool.or_false]
    rw [limit_of_none rate]
    exact ⟨exposed_broadcast lower (h.lower.trans h.force.symm),
      exposed_broadcast upper (h.upper.trans h.force.symm)⟩

theorem Shaped.bounds_limit (h : s.Shaped) (on : s.Activated c) :
    (s.limit c).bounds =
      { lower   := c.lowerBound s.force
        upper   := c.upperBound s.force
        guess   := s.guess.exposed
        penalty := s.penalty } := by
  have ⟨lower, upper⟩ := h.exposed_limit on
  rw [bounds, lower, upper]
  rfl

end State
end PointForce
