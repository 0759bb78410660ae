import Mathlib.Order.Interval.Set.Defs
import PointForce.Proofs.Limits.Band

-- The box as a set of forces. A force that is within the absolute limits, or less than the maximal
-- variation away from them, gets the part of the band that lies within them. Any other force gets
-- the whole band, as no force within the limits can be reached from it.

namespace PointForce

namespace Config

def band (delta force : ℚ) : Set ℚ :=
  Set.Icc (force - delta) (force + delta)

def permitted (c : Config ℚ) : Set ℚ :=
  { x | c.Within x }

variable {c : Config ℚ} {delta force x : ℚ}

def Near (c : Config ℚ) (delta force : ℚ) : Prop :=
  force ∈ c.permitted ∨ ∃ x ∈ c.permitted, |x - force| < delta

structure IsBox (c : Config ℚ) (delta force lo hi : ℚ) : Prop where
  nonempty : lo ≤ hi
  near     : c.Near delta force → Set.Icc lo hi = band delta force ∩ c.permitted
  far      : ¬ c.Near delta force → Set.Icc lo hi = band delta force

namespace Near

theorem close_floor (h : c.Near delta force) {lo : ℚ} (min : c.minForce = some lo) :
    lo ≤ force ∨ lo - force < delta := by
  rcases h with inside | ⟨x, permitted, close⟩
  case inl => exact .inl (inside.floor min)
  case inr =>
    have := permitted.floor min
    have := (abs_lt.mp close).right
    exact .inr (by linarith)

theorem close_ceiling (h : c.Near delta force) {hi : ℚ} (max : c.maxForce = some hi) :
    force ≤ hi ∨ force - hi < delta := by
  rcases h with inside | ⟨x, permitted, close⟩
  case inl => exact .inl (inside.ceiling max)
  case inr =>
    have := permitted.ceiling max
    have := (abs_lt.mp close).left
    exact .inr (by linarith)

-- A limit that does not count is farther away than the edge of the band, and on the same side.
theorem floor_le_iff (h : c.Near delta force) :
    c.floor delta force ≤ x ↔ force - delta ≤ x ∧ ∀ lo, c.minForce = some lo → lo ≤ x := by
  cases side_cases delta c.minForce force (force - delta)
  case inl band =>
    obtain ⟨edge, far⟩ := band
    rw [floor, edge]
    refine ⟨fun le => ⟨le, fun lo min => ?_⟩, And.left⟩
    have apart : delta ≤ |lo - force| := far lo min
    rcases le_abs.mp apart with above | below
    case inl => rcases h.close_floor min with le | lt <;> linarith
    case inr => linarith
  case inr own =>
    obtain ⟨lo, min, close, eq⟩ := own
    have := (abs_lt.mp (not_le.mp close)).left
    rw [floor, eq]
    refine ⟨fun le => ⟨by linarith, fun lo' min' => ?_⟩, fun h => h.right lo min⟩
    exact (Option.some.inj (min'.symm.trans min)).trans_le le

theorem le_ceiling_iff (h : c.Near delta force) :
    x ≤ c.ceiling delta force ↔ x ≤ force + delta ∧ ∀ hi, c.maxForce = some hi → x ≤ hi := by
  cases side_cases delta c.maxForce force (force + delta)
  case inl band =>
    obtain ⟨edge, far⟩ := band
    rw [ceiling, edge]
    refine ⟨fun le => ⟨le, fun hi max => ?_⟩, And.left⟩
    have apart : delta ≤ |hi - force| := far hi max
    rcases le_abs.mp apart with above | below
    case inl => linarith
    case inr => rcases h.close_ceiling max with le | lt <;> linarith
  case inr own =>
    obtain ⟨hi, max, close, eq⟩ := own
    have := (abs_lt.mp (not_le.mp close)).right
    rw [ceiling, eq]
    refine ⟨fun le => ⟨by linarith, fun hi' max' => ?_⟩, fun h => h.right hi max⟩
    exact le.trans_eq (Option.some.inj (max.symm.trans max'))

theorem box_eq (h : c.Near delta force) :
    Set.Icc (c.floor delta force) (c.ceiling delta force) = band delta force ∩ c.permitted := by
  ext x
  constructor
  case mp =>
    intro ⟨lower, upper⟩
    have ⟨bottom, floor⟩ := h.floor_le_iff.mp lower
    have ⟨top, ceiling⟩  := h.le_ceiling_iff.mp upper
    exact ⟨⟨bottom, top⟩, ⟨floor _, ceiling _⟩⟩
  case mpr =>
    intro ⟨⟨bottom, top⟩, permitted⟩
    exact ⟨h.floor_le_iff.mpr ⟨bottom, fun _ => permitted.floor⟩,
      h.le_ceiling_iff.mpr ⟨top, fun _ => permitted.ceiling⟩⟩

end Near

namespace Consistent

theorem min_mem_permitted (h : c.Consistent delta) {lo : ℚ} (min : c.minForce = some lo) :
    lo ∈ c.permitted where
  floor min'  := (Option.some.inj (min'.symm.trans min)).le
  ceiling max := h.limits min max

theorem max_mem_permitted (h : c.Consistent delta) {hi : ℚ} (max : c.maxForce = some hi) :
    hi ∈ c.permitted where
  floor min    := h.limits min max
  ceiling max' := (Option.some.inj (max.symm.trans max')).le

end Consistent

-- No limit counts for a force that is not near, because the limit would be near.
theorem side_of_not_near (far : ¬ c.Near delta force) {limit : Option ℚ}
    (permitted : ∀ x, limit = some x → x ∈ c.permitted) (edge : ℚ) :
    side delta limit force edge = edge := by
  cases side_cases delta limit force edge
  case inl band => exact band.left
  case inr own  =>
    have ⟨x, eq, close, _⟩ := own
    exact absurd (.inr ⟨x, permitted x eq, not_le.mp close⟩) far

theorem Consistent.isBox (h : c.Consistent delta) (force : ℚ) :
    c.IsBox delta force (c.floor delta force) (c.ceiling delta force) where
  nonempty := h.floor_le_ceiling force
  near     := Near.box_eq
  far far  := by
    rw [floor, ceiling, side_of_not_near far fun _ => h.min_mem_permitted,
      side_of_not_near far fun _ => h.max_mem_permitted, band]

end Config

namespace State

structure Aligned {α : Type} (s : State α) : Prop where
  lower : s.lower.values.length = s.force.length
  upper : s.upper.values.length = s.force.length

def withSides {α : Type} (s : State α) (los his : List α) : State α :=
  { s with
    lower := { s.lower with values := los }
    upper := { s.upper with values := his } }

theorem Aligned.limit_withSides {α : Type} [Scalar α] {s : State α} {c : Config α} {delta : α}
    (h : s.Aligned) (rate : c.maxForceVariation = some delta) {los his : List α}
    (lower : los.length = s.force.length) (upper : his.length = s.force.length) :
    (s.withSides los his).limit c = s.limit c := by
  rw [limit_eq h.lower h.upper rate, limit_eq lower upper rate]
  rfl

variable {c : Config ℚ} {delta : ℚ} {s : State ℚ}

namespace Aligned

variable (h : s.Aligned) (rate : c.maxForceVariation = some delta)
include h

omit rate in
theorem activate (c : Config ℚ) : (s.activate c).Aligned where
  lower := h.lower
  upper := h.upper

include rate

theorem exists_isBox (consistent : c.Consistent delta) {axis : Nat} {force : ℚ}
    (at_axis : s.force[axis]? = some force) :
    ∃ lo hi, (s.limit c).lower.values[axis]? = some lo ∧
      (s.limit c).upper.values[axis]? = some hi ∧ c.IsBox delta force lo hi := by
  refine ⟨c.floor delta force, c.ceiling delta force, ?_, ?_, consistent.isBox force⟩
  all_goals
    rw [limit_eq h.lower h.upper rate, List.getElem?_map, at_axis]
    rfl

theorem updateLimits_withSides {los his : List ℚ} (lower : los.length = s.force.length)
    (upper : his.length = s.force.length) :
    (s.withSides los his).updateLimits c = s.updateLimits c := by
  rw [updateLimits, updateLimits, h.limit_withSides rate lower upper]

end Aligned

theorem boxes_of_limits (valid : c.validate = .ok ()) (rate : c.maxForceVariation = some delta)
    (aligned : s.Aligned) {limits : State ℚ → Logged (State ℚ)}
    (either : limits = initLimits c ∨ limits = updateLimits c) :
    (∀ {axis : Nat} {force : ℚ}, s.force[axis]? = some force →
      ∃ lo hi, (limits s).value.lower.values[axis]? = some lo ∧
        (limits s).value.upper.values[axis]? = some hi ∧ c.IsBox delta force lo hi) ∧
    ∀ {los his : List ℚ}, los.length = s.force.length → his.length = s.force.length →
      limits (s.withSides los his) = limits s := by
  have consistent := (Config.validate_eq_ok_iff.mp valid).consistent rate
  rcases either with rfl | rfl
  case inl =>
    have aligned := aligned.activate c
    exact ⟨aligned.exists_isBox rate consistent, aligned.updateLimits_withSides rate⟩
  case inr => exact ⟨aligned.exists_isBox rate consistent, aligned.updateLimits_withSides rate⟩

-- One axis within the limits, one less than the maximal variation above them, and one farther away.
def gate : Config ℚ where
  __                := Config.unset
  minForce          := some (-1)
  maxForce          := some 3
  maxForceVariation := some 2

def straddling : State ℚ where
  __    := State.unresolved
  force := [0, 9 / 2, 5]
  lower := { values := [7, 7, 7] }
  upper := { values := [-7, -7, -7] }

theorem boxes_of_straddling :
    gate.validate = .ok () ∧ gate.maxForceVariation = some 2 ∧ straddling.Aligned ∧
    (initLimits gate straddling).value.lower.values = [-1, 5 / 2, 3] ∧
    (initLimits gate straddling).value.upper.values = [2, 3, 7] ∧
    gate.IsBox 2 0 (-1) 2 ∧ gate.IsBox 2 (9 / 2) (5 / 2) 3 ∧ gate.IsBox 2 5 3 7 ∧
    initLimits gate (straddling.withSides [0, 1, 2] [3, 4, 5]) = initLimits gate straddling := by
  have valid : gate.validate = .ok () := by decide +kernel
  have aligned : straddling.Aligned   := ⟨rfl, rfl⟩
  have ⟨boxes, forgotten⟩ := boxes_of_limits (s := straddling) valid rfl aligned (.inl rfl)
  have lower : (initLimits gate straddling).value.lower.values = [-1, 5 / 2, 3] := by
    decide +kernel
  have upper : (initLimits gate straddling).value.upper.values = [2, 3, 7] := by decide +kernel
  rw [lower, upper] at boxes
  have box (axis : Nat) {force lo hi : ℚ} (at_axis : straddling.force[axis]? = some force)
      (at_lower : [-1, 5 / 2, 3][axis]? = some lo) (at_upper : [2, 3, 7][axis]? = some hi) :
      gate.IsBox 2 force lo hi := by
    obtain ⟨lo', hi', lower, upper, isBox⟩ := boxes at_axis
    rw [at_lower] at lower
    rw [at_upper] at upper
    cases lower
    cases upper
    exact isBox
  exact ⟨valid, rfl, aligned, lower, upper, box 0 rfl rfl rfl, box 1 rfl rfl rfl,
    box 2 rfl rfl rfl, forgotten rfl rfl⟩

end State
end PointForce
