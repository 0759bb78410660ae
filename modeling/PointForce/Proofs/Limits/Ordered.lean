import PointForce.Proofs.Actuator.Run
import PointForce.Proofs.Arithmetic.Rounding
import PointForce.Proofs.Limits.Box

-- The two sides of the box never cross, however the edges of the band are rounded.

namespace PointForce

theorem Buffer.mem_overwrite {α : Type} {x : α} : ∀ {xs ys : List α}, x ∈ overwrite xs ys →
    x ∈ xs ∨ x ∈ ys
  | [],      _,       mem => .inr mem
  | _ :: _,  [],      mem => absurd mem List.not_mem_nil
  | y :: xs, _ :: ys, mem => by
    cases List.mem_cons.mp mem
    case inl eq  => exact .inl (eq ▸ List.mem_cons_self)
    case inr mem => exact (mem_overwrite mem).imp (List.mem_cons_of_mem _) (List.mem_cons_of_mem _)

namespace Config

section Scalar

variable {α : Type} [Scalar α] {c : Config α}

theorem Valid.isFinite (h : c.Valid) {p : Parameter} {v : α} (mem : (p, some v) ∈ c.optional) :
    Scalar.isFinite v := by
  by_contra infinite
  have reported : .notFinite p v ∈ c.faults := by
    simp only [faults, faults.finite, List.mem_append, List.mem_filterMap]
    exact .inl (.inl (.inl (.inl (.inr ⟨_, mem, by simp [infinite]⟩))))
  rw [h] at reported
  cases reported

theorem Valid.not_crossed {lo hi : α} (h : c.Valid) (min : c.minForce = some lo)
    (max : c.maxForce = some hi) : ¬ lo > hi := by
  intro gt
  simp [Valid, faults, faults.crossed, min, max, gt] at h

theorem Valid.not_negative {delta : α} (h : c.Valid) (rate : c.maxForceVariation = some delta) :
    ¬ delta < 0 := by
  intro lt
  simp [Valid, faults, faults.negative, rate, lt] at h

end Scalar

open Rounding

variable {α : Type} [Scalar α] [Rounding α] {c : Config α} {x delta force : α}

-- A limit that counts lies inside the band, even though the rounded distance was looked at.
section Close

variable (hx : Scalar.isFinite x) (hd : Scalar.isFinite delta) (hf : IsNumber force)
  (close : ¬ Scalar.abs (x - force) ≥ delta)
include hx hd hf close

theorem le_add_of_close : x ≤ force + delta := by
  have ⟨number, not_bot, not_top⟩ := isFinite_iff.mp hx
  have hd' := isNumber_of_isFinite hd
  refine (add hf hd' (.inr hd) x number).left (not_lt.mp fun far => close ?_)
  have distance : place delta ≤ place x - place force := by
    rw [EReal.le_sub_iff_add_le (.inr not_bot) (.inr not_top), add_comm]
    exact far.le
  have rounded := (sub number hf (.inl hx) delta hd').left distance
  have ⟨⟨_, hs⟩, le⟩ := le_iff.mp rounded
  refine le_of_place_le hd' (isNumber_abs hs) (le.trans ?_)
  rw [place_abs hs]
  exact le_max_left ..

theorem sub_le_of_close : force - delta ≤ x := by
  have ⟨number, _, _⟩ := isFinite_iff.mp hx
  have hd' := isNumber_of_isFinite hd
  have ⟨opposite, ho, eq⟩ := exists_neg hd'
  refine (sub hf hd' (.inr hd) x number).right (not_lt.mp fun far => close ?_)
  have distance : place x - place force ≤ place opposite := by
    rw [eq]
    refine EReal.sub_le_of_le_add ?_
    rw [add_comm, ← sub_eq_add_neg]
    exact far.le
  have rounded := (sub number hf (.inl hx) opposite ho).right distance
  have ⟨⟨hs, _⟩, le⟩ := le_iff.mp rounded
  refine le_of_place_le hd' (isNumber_abs hs) ?_
  rw [place_abs hs, ← neg_neg (place delta), ← eq]
  exact (EReal.neg_le_neg_iff.mpr le).trans (le_max_right ..)

end Close

theorem Valid.limits_le (h : c.Valid) {lo hi : α} (min : c.minForce = some lo)
    (max : c.maxForce = some hi) : lo ≤ hi := by
  have hlo : Scalar.isFinite lo := h.isFinite (p := .minForce) (by simp [optional, min])
  have hhi : Scalar.isFinite hi := h.isFinite (p := .maxForce) (by simp [optional, max])
  refine le_of_not_lt (isNumber_of_isFinite hhi) (isNumber_of_isFinite hlo) ?_
  exact h.not_crossed min max

-- If one side is an edge of the band, it is on its side of the force, and of any limit that is
-- close enough to count. Two absolute limits are in order by validity.
theorem Valid.floor_le_ceiling (h : c.Valid) (rate : c.maxForceVariation = some delta)
    (hf : IsNumber force) : c.floor delta force ≤ c.ceiling delta force := by
  have hd : Scalar.isFinite delta := h.isFinite (p := .maxForceVariation) (by simp [optional, rate])
  have hd' := isNumber_of_isFinite hd
  have nonneg : place (0 : α) ≤ place delta :=
    (le_iff.mp (le_of_not_lt hd' isNumber_zero (h.not_negative rate))).right
  rw [place_zero] at nonneg
  rw [floor, ceiling]
  cases side_cases delta c.minForce force (force - delta)
  case inl band =>
    rw [band.left]
    cases side_cases delta c.maxForce force (force + delta)
    case inl band =>
      rw [band.left]
      have above : place force ≤ place force + place delta := le_add_of_nonneg_right nonneg
      have below : place force - place delta ≤ place force := EReal.sub_le_of_le_add above
      exact Rounding.le_trans ((sub hf hd' (.inr hd) force hf).right below)
        ((add hf hd' (.inr hd) force hf).left above)
    case inr own =>
      obtain ⟨hi, max, close, eq⟩ := own
      rw [eq]
      exact sub_le_of_close (h.isFinite (p := .maxForce) (by simp [optional, max])) hd hf close
  case inr own =>
    obtain ⟨lo, min, close, eqlo⟩ := own
    have hlo : Scalar.isFinite lo := h.isFinite (p := .minForce) (by simp [optional, min])
    rw [eqlo]
    cases side_cases delta c.maxForce force (force + delta)
    case inl band =>
      rw [band.left]
      exact le_add_of_close hlo hd hf close
    case inr own =>
      obtain ⟨hi, max, _, eqhi⟩ := own
      rw [eqhi]
      exact h.limits_le min max

theorem Valid.lower_le_upper (h : c.Valid) {force : List α} (numeric : ∀ f ∈ force, IsNumber f)
    {los his : List α} (lower : c.lowerBound force = some los)
    (upper : c.upperBound force = some his) : ∀ p ∈ los.zip his, p.1 ≤ p.2 := by
  rw [lowerBound, bound] at lower
  rw [upperBound, bound] at upper
  cases rate : c.maxForceVariation
  case some delta =>
    simp only [rate, Option.some.injEq] at lower upper
    rw [← lower, ← upper, List.zip_map', List.forall_mem_map]
    exact fun f mem => h.floor_le_ceiling rate (numeric f mem)
  case none =>
    simp only [rate, Option.map_eq_some_iff] at lower upper
    obtain ⟨lo, min, rfl⟩ := lower
    obtain ⟨hi, max, rfl⟩ := upper
    rw [List.zip_map', List.forall_mem_map]
    exact fun _ _ => h.limits_le min max

theorem Valid.isNumber_initForce (h : c.Valid) : IsNumber (c.initForce.getD 0) := by
  cases init : c.initForce
  case none   => exact isNumber_zero
  case some v =>
    exact isNumber_of_isFinite (h.isFinite (p := .initForce) (by simp [optional, init]))

end Config

namespace State

variable {α : Type} [Scalar α] {s : State α} {c : Config α}

structure Ready (c : Config α) (s : State α) : Prop where
  shaped  : s.Shaped
  numeric : ∀ f ∈ s.force, IsNumber f
  sides   : s.lower.active = false ∨ s.Activated c

namespace Ready

theorem unresolved (c : Config α) : (unresolved : State α).Ready c where
  shaped  := .unresolved
  numeric := nofun
  sides   := .inl rfl

theorem limit (h : s.Ready c) : (s.limit c).Ready c where
  shaped  := h.shaped.limit c
  numeric := h.numeric
  sides   := h.sides.imp id .limit

theorem overwrite (h : s.Ready c) {multipliers : List α} (numeric : ∀ l ∈ multipliers, IsNumber l)
    (displacement : α) :
    Ready c { s with displacement, force := Buffer.overwrite multipliers s.force } where
  shaped       := h.shaped.overwrite multipliers displacement
  numeric f mem := (Buffer.mem_overwrite mem).elim (numeric f) (h.numeric f)
  sides        := h.sides.imp id fun on => ⟨on.lower, on.upper⟩

variable [Rounding α]

theorem resolve [Elementary α] (valid : c.Valid) (s : State α) :
    ((s.resolve c).activate c).Ready c where
  shaped        := .activate (.resolve c s) c
  numeric _ mem := List.eq_of_mem_replicate mem ▸ valid.isNumber_initForce
  sides         := .inr (.activate ..)

theorem ordered_limit (h : s.Ready c) (valid : c.Valid) : (s.limit c).Ordered := by
  intro lower upper
  cases h.sides
  case inl off => exact absurd (lower.symm.trans off) nofun
  case inr on  =>
    have ⟨exposedLower, exposedUpper⟩ := h.shaped.exposed_limit on
    exact valid.lower_le_upper h.numeric (exposedLower.symm.trans (if_pos lower))
      (exposedUpper.symm.trans (if_pos upper))

end Ready
end State

end PointForce
