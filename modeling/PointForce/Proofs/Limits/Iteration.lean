import Mathlib.Data.List.Forall2
import Mathlib.Logic.Relation
import PointForce.Proofs.Limits.Band

-- Iterations of a solver that respects the box. The box is computed anew from each force that is
-- stored, so the solver moves the box, and the box holds the solver.

namespace PointForce

theorem forall₂_trans {β : Type} {R : β → β → Prop} (trans : ∀ {x y z}, R x y → R y z → R x z)
    {xs ys zs : List β} (h : List.Forall₂ R xs ys) (later : List.Forall₂ R ys zs) :
    List.Forall₂ R xs zs := by
  induction h generalizing zs
  case nil => exact later
  case cons first _ ih =>
    cases later
    case cons second later => exact .cons (trans first second) (ih later)

structure Bounds.Admits {α : Type} [Scalar α] (b : Bounds α) (multipliers : List α) : Prop where
  lower : ∀ {los : List α}, b.lower = some los → List.Forall₂ (· ≤ ·) los multipliers
  upper : ∀ {his : List α}, b.upper = some his → List.Forall₂ (· ≤ ·) multipliers his

instance {α : Type} [Scalar α] (b : Bounds α) (multipliers : List α) :
    Decidable (b.Admits multipliers) :=
  decidable_of_iff
    ((∀ los ∈ b.lower, List.Forall₂ (· ≤ ·) los multipliers) ∧
      ∀ his ∈ b.upper, List.Forall₂ (· ≤ ·) multipliers his)
    ⟨fun h => ⟨h.left _, h.right _⟩, fun h => ⟨fun _ => h.lower, fun _ => h.upper⟩⟩

namespace Actuator

open Relation (ReflTransGen)

section Scalar

variable {α : Type} [Scalar α] {a b : Actuator α} {c : Config α} {delta : α}

-- The solver picks a force for each axis. What it reports as displacement is not restricted.
inductive Iteration (a : Actuator α) : Actuator α → Prop
  | intro {multipliers : List α} (deltas : List α) (length : multipliers.length = a.dimension)
    (admitted : a.bounds.Admits multipliers) : Iteration a (a.store multipliers deltas).value

inductive Feasible (a : Actuator α) : Prop
  | intro {los his : List α} (lower : a.bounds.lower = some los) (upper : a.bounds.upper = some his)
    (length : los.length = a.dimension) (ordered : List.Forall₂ (· ≤ ·) los his)

structure Banded (c : Config α) (delta : α) (a : Actuator α) : Prop where
  config : a.config = c
  shaped : a.state.Shaped
  lower  : a.bounds.lower = some (a.force.map (c.floor delta))
  upper  : a.bounds.upper = some (a.force.map (c.ceiling delta))

namespace Banded

theorem limit {s : State α} (config : a.config = c) (rate : c.maxForceVariation = some delta)
    (shaped : s.Shaped) (lower : s.lower.active) (upper : s.upper.active)
    (state : a.state = s.limit c) : a.Banded c delta where
  config := config
  shaped := state ▸ shaped.limit c
  lower  := by
    rw [bounds, force, state, shaped.limit_eq rate]
    exact if_pos lower
  upper  := by
    rw [bounds, force, state, shaped.limit_eq rate]
    exact if_pos upper

theorem store (h : Banded c delta a) (rate : c.maxForceVariation = some delta)
    (multipliers deltas : List α) : Banded c delta (a.store multipliers deltas).value := by
  obtain ⟨rfl, shaped, lower, upper⟩ := h
  have active {b : Bound α} {values : List α} (h : b.exposed = some values) : b.active := by
    by_contra inactive
    cases (if_neg inactive).symm.trans h
  exact .limit rfl rate (shaped.overwrite multipliers _) (active lower) (active upper) rfl

theorem init [Elementary α] (valid : a.config.Valid)
    (rate : a.config.maxForceVariation = some delta) (body : Option (Body α)) :
    Banded a.config delta (a.init body).2.value := by
  have ⟨_, value⟩ := init_of_valid valid body
  have on (limit : Option α) : (limit.isSome || a.config.maxForceVariation.isSome) = true := by
    rw [rate, Option.isSome_some, Bool.or_true]
  rw [value]
  exact .limit rfl rate (.activate (.resolve ..) _) (on _) (on _) rfl

end Banded
end Scalar

section Exact

variable {a b : Actuator ℚ} {c : Config ℚ} {delta : ℚ}

theorem Banded.feasible (h : Banded c delta a) (consistent : c.Consistent delta) : a.Feasible := by
  refine .intro h.lower h.upper ?_ ?_
  · rw [List.length_map]
    exact h.shaped.force
  · rw [List.forall₂_map_left_iff, List.forall₂_map_right_iff, List.forall₂_same]
    exact fun force _ => consistent.floor_le_ceiling force

theorem Feasible.exists_iteration (h : a.Feasible) : ∃ b, Iteration a b := by
  obtain @⟨los, his, lower, upper, length, ordered⟩ := h
  refine ⟨(a.store los []).value, .intro [] length ⟨?_, ?_⟩⟩
  · intro los' eq
    cases Option.some.inj (lower.symm.trans eq)
    exact List.forall₂_same.mpr fun _ _ => le_refl _
  · intro his' eq
    cases Option.some.inj (upper.symm.trans eq)
    exact ordered

namespace Iteration

theorem between (e : Iteration a b) (h : Banded c delta a) :
    List.Forall₂ (fun f g => c.floor delta f ≤ g ∧ g ≤ c.ceiling delta f) a.force b.force := by
  obtain ⟨deltas, length, admitted⟩ := e
  rw [force_store (length.trans h.shaped.force.symm)]
  have lower := List.forall₂_map_left_iff.mp (admitted.lower h.lower)
  have upper := List.forall₂_map_right_iff.mp (admitted.upper h.upper)
  exact .mp (fun _ _ => .intro) lower upper.flip

theorem banded (e : Iteration a b) (h : Banded c delta a)
    (rate : c.maxForceVariation = some delta) : Banded c delta b := by
  obtain ⟨deltas, _, _⟩ := e
  exact h.store rate _ deltas

theorem abs_sub_le (e : Iteration a b) (h : Banded c delta a) (consistent : c.Consistent delta) :
    List.Forall₂ (fun f g => |g - f| ≤ delta) a.force b.force :=
  (e.between h).imp fun _ _ ⟨lower, upper⟩ => consistent.abs_sub_le lower upper

theorem within (e : Iteration a b) (h : Banded c delta a) :
    List.Forall₂ (fun f g => c.Within f → c.Within g) a.force b.force :=
  (e.between h).imp fun _ _ ⟨lower, upper⟩ held => held.of_between lower upper

end Iteration

structure Limited (c : Config ℚ) (delta : ℚ) (a : Actuator ℚ) : Prop where
  feasible  : a.Feasible
  continued : ∃ b, Iteration a b
  variation : ∀ {b : Actuator ℚ}, Iteration a b →
    List.Forall₂ (fun f g => |g - f| ≤ delta) a.force b.force
  absolute  : ∀ {b : Actuator ℚ}, ReflTransGen Iteration a b →
    List.Forall₂ (fun f g => c.Within f → c.Within g) a.force b.force

namespace Banded

variable (h : Banded c delta a) (rate : c.maxForceVariation = some delta)
include h rate

theorem run (r : ReflTransGen Iteration a b) : Banded c delta b := by
  induction r
  case refl      => exact h
  case tail e ih => exact e.banded ih rate

theorem within_of_run (r : ReflTransGen Iteration a b) :
    List.Forall₂ (fun f g => c.Within f → c.Within g) a.force b.force := by
  induction r
  case refl          => exact List.forall₂_same.mpr fun _ _ => id
  case tail r e held =>
    refine forall₂_trans ?_ held (e.within (h.run rate r))
    exact fun earlier later => later ∘ earlier

theorem limited (consistent : c.Consistent delta) : Limited c delta a where
  feasible    := h.feasible consistent
  continued   := (h.feasible consistent).exists_iteration
  variation e := e.abs_sub_le h consistent
  absolute r  := h.within_of_run rate r

end Banded

theorem limited_of_init_of_run [Elementary ℚ] (valid : a.config.validate = .ok ())
    (rate : a.config.maxForceVariation = some delta) (body : Option (Body ℚ)) :
    (a.init body).1 = .ok () ∧
    ∀ {b : Actuator ℚ}, ReflTransGen Iteration (a.init body).2.value b →
      Limited a.config delta b := by
  have valid := Config.validate_eq_ok_iff.mp valid
  refine ⟨(init_of_valid valid body).left, fun r => ?_⟩
  exact (Banded.init valid rate body).run rate r |>.limited rate (valid.consistent rate)

def ramp : Config ℚ where
  __                := Config.unset
  minForce          := some 0
  maxForce          := some 5
  initForce         := some 2
  maxForceVariation := some (3 / 4)

open scoped Exact in
theorem limited_of_ramp :
    ramp.validate = .ok () ∧ ramp.maxForceVariation = some (3 / 4) ∧
    ∃ b, ReflTransGen Iteration ((new "ramp" ramp).init none).2.value b ∧
      b.force = [11 / 4, 2, 5 / 4] ∧ Limited ramp (3 / 4) b := by
  have valid : ramp.validate = .ok () := by decide +kernel
  have ⟨_, limited⟩ := limited_of_init_of_run (a := new "ramp" ramp) valid rfl none
  have admitted : ((new "ramp" ramp).init none).2.value.bounds.Admits [11 / 4, 2, 5 / 4] := by
    decide +kernel
  have run := ReflTransGen.single (Iteration.intro [] (by decide +kernel) admitted)
  exact ⟨valid, rfl, _, run, by decide +kernel, limited run⟩

end Exact
end Actuator
end PointForce
