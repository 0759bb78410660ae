import Mathlib.Logic.Function.Iterate
import PointForce.Proofs.Limits.Box
import PointForce.Proofs.Limits.Intersection

-- As long as the force stays, nothing changes when the limits are computed anew. This holds in any
-- arithmetic, for any configuration, and for vectors of any lengths.

namespace PointForce.State

variable {α : Type} [Scalar α] {s t : State α} {c : Config α}

section Sides

variable {delta : α} {fs los his los' his' xs ys : List α}

omit [Scalar α] in
theorem broadcast_nil (limit : Option α) : broadcast limit ([] : List α) = [] := by
  cases limit <;> rfl

omit [Scalar α] in
theorem broadcast_broadcast (limit : Option α) (values : List α) :
    broadcast limit (broadcast limit values) = broadcast limit values := by
  cases limit <;> simp [broadcast]

omit [Scalar α] in
theorem broadcast_congr {limit : Option α} (length : xs.length = ys.length)
    (same : limit = none → xs = ys) : broadcast limit xs = broadcast limit ys := by
  cases limit
  case none   => exact same rfl
  case some x => rw [broadcast, broadcast, List.map_const', List.map_const', length]

theorem recentre_of_nil (delta : α) (floor ceiling : Option α)
    (h : fs = [] ∨ los = [] ∨ his = []) :
    recentre delta floor ceiling fs los his = (los, his) := by
  rcases h with rfl | rfl | rfl
  · simp [recentre]
  · cases fs <;> simp [recentre]
  · cases fs <;> cases los <;> simp [recentre]

theorem recentre_again_of_nil
    (h : fs = [] ∨ broadcast c.minForce los = [] ∨ broadcast c.maxForce his = [])
    (first : recentre delta c.minForce c.maxForce fs (broadcast c.minForce los)
      (broadcast c.maxForce his) = (los', his')) :
    recentre delta c.minForce c.maxForce fs (broadcast c.minForce los')
      (broadcast c.maxForce his') = (los', his') := by
  have idle := recentre_of_nil delta c.minForce c.maxForce h
  cases idle.symm.trans first
  rw [broadcast_broadcast, broadcast_broadcast, idle]

-- Where it reaches one, both sides follow from the absolute limits and the force, whatever they
-- were before. So the values of the first time play no part in the second.
theorem recentre_again (c : Config α) (delta : α) : ∀ (fs los his : List α) {los' his' : List α},
    recentre delta c.minForce c.maxForce fs (broadcast c.minForce los)
      (broadcast c.maxForce his) = (los', his') →
    recentre delta c.minForce c.maxForce fs (broadcast c.minForce los')
      (broadcast c.maxForce his') = (los', his')
  | _ :: _, _ :: _, _ :: _, _, _, first => by
    rw [broadcast_cons, broadcast_cons, recentre, recentreAxis_eq] at first
    cases first
    rw [broadcast_cons, broadcast_cons, recentre, recentreAxis_eq, recentre_again c delta _ _ _ rfl]
  | [],     _,      _,  _, _, first => recentre_again_of_nil (.inl rfl) first
  | _ :: _, [],     _,  _, _, first => recentre_again_of_nil (.inr (.inl (broadcast_nil _))) first
  | _ :: _, _ :: _, [], _, _, first => recentre_again_of_nil (.inr (.inr (broadcast_nil _))) first

end Sides

theorem limit_limit (c : Config α) (s : State α) : (s.limit c).limit c = s.limit c := by
  cases rate : c.maxForceVariation
  case none       =>
    rw [limit_of_none rate, limit_of_none rate]
    simp only [broadcast_broadcast]
  case some delta =>
    have again := recentre_again c delta s.force s.lower.values s.upper.values rfl
    simp only [limit, rate, again]

theorem updateLimits_updateLimits (c : Config α) (s : State α) :
    (s.updateLimits c).value.updateLimits c = s.updateLimits c :=
  congrArg reportCrossing (limit_limit c s)

inductive DiffersOnActive (c : Config α) (s : State α) : State α → Prop
  | intro {los his : List α}
    (lower  : los.length = s.lower.values.length)
    (upper  : his.length = s.upper.values.length)
    (lower' : (s.activate c).lower.active = false → los = s.lower.values)
    (upper' : (s.activate c).upper.active = false → his = s.upper.values) :
    DiffersOnActive c s (s.withSides los his)

theorem limit_of_differsOnActive (aligned : s.Aligned) (h : s.DiffersOnActive c t) :
    t.limit c = s.limit c := by
  obtain ⟨lower, upper, lower', upper'⟩ := h
  cases rate : c.maxForceVariation
  case some delta =>
    exact aligned.limit_withSides rate (lower.trans aligned.lower) (upper.trans aligned.upper)
  case none =>
    have inactive {limit : Option α} (none : limit = none) :
        (limit.isSome || c.maxForceVariation.isSome) = false := by
      rw [none, rate]
      rfl
    rw [limit_of_none rate, limit_of_none rate, ← broadcast_congr lower fun h => lower' (inactive h),
      ← broadcast_congr upper fun h => upper' (inactive h)]
    rfl

theorem updateLimits_idempotent_and_blind (c : Config α) :
    (∀ s : State α, (s.updateLimits c).value.updateLimits c = s.updateLimits c) ∧
    (∀ (s : State α) (n : Nat),
      (fun s => (updateLimits c s).value)^[n] (s.initLimits c).value = (s.initLimits c).value) ∧
    ∀ {s t : State α}, s.Aligned → s.DiffersOnActive c t → t.updateLimits c = s.updateLimits c := by
  refine ⟨updateLimits_updateLimits c, fun s n => ?_, fun aligned differs => ?_⟩
  case refine_1 => exact Function.iterate_fixed (limit_limit c (s.activate c)) n
  case refine_2 => exact congrArg reportCrossing (limit_of_differsOnActive aligned differs)

def crossedBand : Config Float where
  __                := Config.unset
  minForce          := some 1
  maxForce          := some (-1)
  maxForceVariation := some 0.5

def unmeasured : State Float where
  __    := State.unresolved
  force := [0.75, 0 / 0]
  lower := { values := [0 / 0, 7] }
  upper := { values := [7, 0 / 0] }

theorem updateLimits_idempotent_and_blind_on_unmeasured :
    unmeasured.Aligned ∧
    unmeasured.DiffersOnActive crossedBand (unmeasured.withSides [1, 2] [3, 4]) ∧
    (unmeasured.withSides [1, 2] [3, 4]).updateLimits crossedBand =
      unmeasured.updateLimits crossedBand := by
  have aligned : unmeasured.Aligned := ⟨by decide, by decide⟩
  have differs : unmeasured.DiffersOnActive crossedBand (unmeasured.withSides [1, 2] [3, 4]) :=
    .intro (by decide) (by decide) nofun nofun
  have ⟨_, _, blind⟩ := updateLimits_idempotent_and_blind crossedBand
  exact ⟨aligned, differs, blind aligned differs⟩

end PointForce.State
