import PointForce.Proofs.Arithmetic.Real

-- What an infinity, or a value that is no number, makes of a result in binary64. It does not lead
-- back to a finite value, so that all that a finite result is made of is finite.

namespace PointForce.Binary64

open Float.Model Float.Model.UnpackedFloat

variable {x y : Float}

theorem isFinite_of_pack {u : UnpackedFloat}
    (h : Scalar.isFinite (Float.ofModel (Float.Model.pack u))) : u.isFinite := by
  by_contra infinite
  have canonical : Canonical u := by
    cases u
    case finite => exact absurd rfl infinite
    all_goals trivial
  change (unpacked (.ofModel (Float.Model.pack u))).isFinite at h
  rw [unpacked_pack_canonical rfl canonical] at h
  exact infinite h

theorem isFinite_of_sub (h : Scalar.isFinite (x - y)) : Scalar.isFinite x ∧ Scalar.isFinite y := by
  have finite : (UnpackedFloat.sub .binary64 (unpacked x) (unpacked y)).isFinite :=
    isFinite_of_pack h
  change (unpacked x).isFinite ∧ (unpacked y).isFinite
  revert finite
  cases unpacked x <;> cases unpacked y
  case infinity.infinity s s' => cases s <;> cases s' <;> nofun
  all_goals simp [UnpackedFloat.sub, UnpackedFloat.isFinite]

theorem isFinite_of_mul (h : Scalar.isFinite (x * y)) : Scalar.isFinite x ∧ Scalar.isFinite y := by
  have finite : (UnpackedFloat.mul .binary64 (unpacked x) (unpacked y)).isFinite :=
    isFinite_of_pack h
  change (unpacked x).isFinite ∧ (unpacked y).isFinite
  revert finite
  cases unpacked x <;> cases unpacked y <;> simp [UnpackedFloat.mul, UnpackedFloat.isFinite]

theorem nonneg_mul (finite : Scalar.isFinite (x * y)) (hx : 0 ≤ x) (hy : 0 ≤ y) : 0 ≤ x * y := by
  have ⟨fx, fy⟩ := isFinite_of_mul finite
  exact (rounds_mul fx fy).nonneg (mul_nonneg (real_nonneg hx) (real_nonneg hy))

theorem nonneg_of_isFinite_sqrt (h : Scalar.isFinite (Elementary.sqrt x)) :
    Scalar.isFinite x ∧ 0 ≤ real x := by
  have finite : (UnpackedFloat.sqrt .binary64 (unpacked x)).isFinite := isFinite_of_pack h
  change (unpacked x).isFinite ∧ 0 ≤ value (unpacked x)
  revert finite
  rcases unpacked x with (_ | _) | _ | _ | ⟨_ | _, m, e, pos⟩
  case zero            => exact fun _ => ⟨rfl, le_rfl⟩
  case finite.positive =>
    refine fun _ => ⟨rfl, ?_⟩
    rw [value, factor_positive, one_mul, scaled]
    positivity
  all_goals exact fun h => absurd h Bool.false_ne_true

theorem nonneg_root (h : Scalar.isFinite (Elementary.sqrt x)) : 0 ≤ Elementary.sqrt x := by
  have ⟨hx, nonneg⟩ := nonneg_of_isFinite_sqrt h
  exact (rounds_sqrt hx nonneg).nonneg (Real.sqrt_nonneg _)

theorem isFinite_of_abs (h : Scalar.isFinite (Scalar.abs x)) : Scalar.isFinite x := by
  have size : (unpacked x).abs.isFinite := isFinite_of_pack h
  change (unpacked x).isFinite
  revert size
  cases unpacked x <;> exact id

theorem nonneg_abs (h : Scalar.isFinite (Scalar.abs x)) : 0 ≤ Scalar.abs x := by
  have number := Rounding.isNumber_of_isFinite (isFinite_of_abs h)
  apply Rounding.le_of_place_le Rounding.isNumber_zero (Rounding.isNumber_abs number)
  rw [Rounding.place_zero, Rounding.place_abs number, le_max_iff]
  exact (le_total 0 (Rounding.place x)).imp_right EReal.neg_nonneg.mpr

end PointForce.Binary64
