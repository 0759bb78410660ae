import Mathlib.Tactic.Linarith
import PointForce.Proofs.Actuator.Operations
import PointForce.Proofs.Exact

-- The box that a maximal variation leaves to the solver. It is a function of the force alone:
-- nothing of an earlier box survives in it.

namespace PointForce

namespace Config

variable {α : Type} [Scalar α]

def side (delta : α) (limit : Option α) (force edge : α) : α :=
  limit.elim edge fun x => if Scalar.abs (x - force) ≥ delta then edge else x

def floor (c : Config α) (delta force : α) : α :=
  side delta c.minForce force (force - delta)

def ceiling (c : Config α) (delta force : α) : α :=
  side delta c.maxForce force (force + delta)

theorem side_cases (delta : α) (limit : Option α) (force edge : α) :
    (side delta limit force edge = edge ∧
      ∀ x, limit = some x → Scalar.abs (x - force) ≥ delta) ∨
    ∃ x, limit = some x ∧ ¬ Scalar.abs (x - force) ≥ delta ∧ side delta limit force edge = x := by
  cases limit
  case none   => exact .inl ⟨rfl, nofun⟩
  case some x =>
    by_cases h : Scalar.abs (x - force) ≥ delta
    case pos => exact .inl ⟨if_pos h, fun _ eq => Option.some.inj eq ▸ h⟩
    case neg => exact .inr ⟨x, rfl, h, if_neg h⟩

end Config

namespace State

variable {α : Type} [Scalar α] {s : State α} {c : Config α} {delta : α}

theorem recentreAxis_eq (c : Config α) (delta force lo hi : α) :
    recentreAxis delta c.minForce c.maxForce force (c.minForce.getD lo) (c.maxForce.getD hi) =
      (c.floor delta force, c.ceiling delta force) := by
  rw [recentreAxis, Config.floor, Config.ceiling]
  cases c.minForce <;> cases c.maxForce <;> simp [Config.side]

omit [Scalar α] in
theorem broadcast_cons (limit : Option α) (x : α) (xs : List α) :
    broadcast limit (x :: xs) = limit.getD x :: broadcast limit xs := by
  cases limit <;> rfl

theorem recentre_eq (c : Config α) (delta : α) : ∀ {fs los his : List α},
    los.length = fs.length → his.length = fs.length →
    recentre delta c.minForce c.maxForce fs (broadcast c.minForce los)
      (broadcast c.maxForce his) = (fs.map (c.floor delta), fs.map (c.ceiling delta))
  | [],      [],        [],        _,  _  => by
    cases c.minForce <;> cases c.maxForce <;> rfl
  | f :: fs, lo :: los, hi :: his, hl, hh => by
    have ih := recentre_eq c delta (Nat.succ.inj hl) (Nat.succ.inj hh)
    rw [broadcast_cons, broadcast_cons, recentre, recentreAxis_eq, ih]
    rfl

theorem limit_eq (lower : s.lower.values.length = s.force.length)
    (upper : s.upper.values.length = s.force.length) (rate : c.maxForceVariation = some delta) :
    s.limit c =
      { s with
        lower := { s.lower with values := s.force.map (c.floor delta) }
        upper := { s.upper with values := s.force.map (c.ceiling delta) } } := by
  have sides := recentre_eq c delta lower upper
  simp only [State.limit, rate, sides]

theorem Shaped.limit_eq (h : s.Shaped) (rate : c.maxForceVariation = some delta) :
    s.limit c =
      { s with
        lower := { s.lower with values := s.force.map (c.floor delta) }
        upper := { s.upper with values := s.force.map (c.ceiling delta) } } :=
  State.limit_eq (h.lower.trans h.force.symm) (h.upper.trans h.force.symm) rate

end State

namespace Config

structure Within {α : Type} [Scalar α] (c : Config α) (force : α) : Prop where
  floor   : ∀ {lo : α}, c.minForce = some lo → lo ≤ force
  ceiling : ∀ {hi : α}, c.maxForce = some hi → force ≤ hi

structure Consistent (c : Config ℚ) (delta : ℚ) : Prop where
  variation : 0 ≤ delta
  limits    : ∀ {lo hi : ℚ}, c.minForce = some lo → c.maxForce = some hi → lo ≤ hi

variable {c : Config ℚ} {delta force stored : ℚ}

theorem Valid.consistent (h : c.Valid) (rate : c.maxForceVariation = some delta) :
    c.Consistent delta where
  variation := by
    by_contra lt
    simp [Valid, faults, faults.negative, rate, not_le.mp lt] at h
  limits {lo hi} hl hh := by
    by_contra gt
    simp [Valid, faults, faults.crossed, hl, hh, not_le.mp gt] at h

theorem abs_side_sub_le {limit : Option ℚ} {edge : ℚ} (h : |edge - force| ≤ delta) :
    |side delta limit force edge - force| ≤ delta := by
  cases side_cases delta limit force edge
  case inl band => rwa [band.left]
  case inr own =>
    have ⟨x, _, close, eq⟩ := own
    rw [eq]
    exact le_of_lt (not_le.mp close)

namespace Consistent

theorem abs_floor_sub_le (h : c.Consistent delta) (force : ℚ) :
    |c.floor delta force - force| ≤ delta :=
  abs_side_sub_le (by rw [sub_sub_cancel_left, abs_neg, abs_of_nonneg h.variation])

theorem abs_ceiling_sub_le (h : c.Consistent delta) (force : ℚ) :
    |c.ceiling delta force - force| ≤ delta :=
  abs_side_sub_le (by rw [add_sub_cancel_left, abs_of_nonneg h.variation])

-- If one of the sides is an edge of the band, the other one is not beyond it. Two absolute limits
-- are in order by validity.
theorem floor_le_ceiling (h : c.Consistent delta) (force : ℚ) :
    c.floor delta force ≤ c.ceiling delta force := by
  have ⟨_, floor_le⟩   := abs_le.mp (h.abs_floor_sub_le force)
  have ⟨le_ceiling, _⟩ := abs_le.mp (h.abs_ceiling_sub_le force)
  cases side_cases delta c.minForce force (force - delta)
  case inl band =>
    have : c.floor delta force = force - delta := band.left
    linarith
  case inr own =>
    have ⟨lo, min, _, eql⟩ := own
    cases side_cases delta c.maxForce force (force + delta)
    case inl band =>
      have : c.ceiling delta force = force + delta := band.left
      linarith
    case inr own =>
      have ⟨hi, max, _, eqh⟩ := own
      rw [floor, ceiling, eql, eqh]
      exact h.limits min max

end Consistent

-- A force that is within a limit cannot leave it, as an edge of the band counts only where the
-- limit is farther away.
theorem le_floor {lo : ℚ} (min : c.minForce = some lo) (le : lo ≤ force) :
    lo ≤ c.floor delta force := by
  cases side_cases delta c.minForce force (force - delta)
  case inl h =>
    have far : delta ≤ |lo - force| := h.right lo min
    rw [abs_of_nonpos (by linarith)] at far
    rw [floor, h.left]
    linarith
  case inr h =>
    have ⟨x, eqx, _, eq⟩ := h
    rw [floor, eq]
    exact le_of_eq (Option.some.inj (min.symm.trans eqx))

theorem ceiling_le {hi : ℚ} (max : c.maxForce = some hi) (le : force ≤ hi) :
    c.ceiling delta force ≤ hi := by
  cases side_cases delta c.maxForce force (force + delta)
  case inl h =>
    have far : delta ≤ |hi - force| := h.right hi max
    rw [abs_of_nonneg (by linarith)] at far
    rw [ceiling, h.left]
    linarith
  case inr h =>
    have ⟨x, eqx, _, eq⟩ := h
    rw [ceiling, eq]
    exact le_of_eq (Option.some.inj (eqx.symm.trans max))

section Stored

variable (lower : c.floor delta force ≤ stored) (upper : stored ≤ c.ceiling delta force)
include lower upper

theorem Consistent.abs_sub_le (h : c.Consistent delta) : |stored - force| ≤ delta := by
  have ⟨le_floor, _⟩   := abs_le.mp (h.abs_floor_sub_le force)
  have ⟨_, ceiling_le⟩ := abs_le.mp (h.abs_ceiling_sub_le force)
  exact abs_le.mpr ⟨by linarith, by linarith⟩

theorem Within.of_between (h : c.Within force) : c.Within stored where
  floor min   := (le_floor min (h.floor min)).trans lower
  ceiling max := upper.trans (ceiling_le max (h.ceiling max))

end Stored

end Config
end PointForce
