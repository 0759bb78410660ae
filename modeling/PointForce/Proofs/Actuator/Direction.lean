import PointForce.Actuator.Basic
import PointForce.Proofs.Arithmetic.Real
import PointForce.Proofs.Matrix.Exports

-- The norm of a direction is the root of squares that may vanish or overflow although no component
-- does. If they vanish the direction is too short to be fixed, but if they overflow it is divided
-- by an infinity, and nothing is left of it.

namespace PointForce

open Binary64

namespace Vec3

variable {v : Vec3 Float} {k : Int}

theorem isFinite_iff : v.isFinite ↔ ∀ axis, Scalar.isFinite (v.component axis) := by
  simp only [isFinite, toList, List.all_cons, List.all_nil, Bool.and_true, Bool.and_eq_true]
  exact ⟨fun ⟨hx, hy, hz⟩ => fun | 0 => hx | 1 => hy | 2 => hz, fun h => ⟨h 0, h 1, h 2⟩⟩

def square (v : Vec3 Float) (axis : Fin 3) : Float :=
  v.component axis * v.component axis

def squares (v : Vec3 Float) : Float :=
  v.square 0 + v.square 1 + v.square 2

theorem rounds_square (h : v.isFinite) (axis : Fin 3) :
    Rounds (real (v.component axis) ^ 2) (v.square axis) :=
  sq (real (v.component axis)) ▸ rounds_mul (isFinite_iff.mp h axis) (isFinite_iff.mp h axis)

theorem square_nonneg (h : v.isFinite) (axis : Fin 3) : 0 ≤ v.square axis :=
  (rounds_square h axis).nonneg (sq_nonneg _)

theorem squares_nonneg (h : v.isFinite) : 0 ≤ v.squares ∧ (Scalar.isFinite v.squares →
    ∀ axis, Scalar.isFinite (v.square axis) ∧ real (v.square axis) ≤ real v.squares) := by
  have ⟨nonneg, two⟩  := nonneg_add (square_nonneg h 0) (square_nonneg h 1)
  have ⟨nonneg', all⟩ := nonneg_add nonneg (square_nonneg h 2)
  refine ⟨nonneg', fun finite => ?_⟩
  have ⟨⟨finite', le⟩, z⟩ := all finite
  have ⟨x, y⟩             := two finite'
  exact fun
    | 0 => ⟨x.left, x.right.trans le⟩
    | 1 => ⟨y.left, y.right.trans le⟩
    | 2 => z

theorem norm_nonneg (h : v.isFinite) : 0 ≤ v.norm :=
  (nonneg_sqrt (squares_nonneg h).left).left

theorem rounds_norm (h : v.isFinite) (finite : Scalar.isFinite v.norm) :
    Scalar.isFinite v.squares ∧ Rounds √(real v.squares) v.norm := by
  have ⟨nonneg, _⟩ := squares_nonneg h
  have finite := (nonneg_sqrt nonneg).right finite
  exact ⟨finite, rounds_sqrt finite (real_nonneg nonneg)⟩

theorem norm_le (h : v.isFinite) (finite : Scalar.isFinite v.norm) :
    real v.norm ≤ 2 ^ (512 : Int) := by
  have ⟨_, rounds⟩ := rounds_norm h finite
  refine rounds.real_le finite (by simp) ?_
  rw [Real.sqrt_le_left (by positivity), sq_two_zpow]
  exact le_of_abs_le (abs_real_lt _).le

theorem le_norm (h : v.isFinite) (finite : Scalar.isFinite v.norm) {axis : Fin 3}
    (range : -511 ≤ k ∧ k ≤ 511) (large : 2 ^ k ≤ |real (v.component axis)|) :
    2 ^ k ≤ real v.norm := by
  have ⟨sum, rounds⟩ := rounds_norm h finite
  have ⟨part, le⟩ := (squares_nonneg h).right sum axis
  refine rounds.le_real finite (by omega) ?_
  rw [Real.le_sqrt' (by positivity), sq_two_zpow]
  exact ((rounds_square h axis).le_real part (by omega) (two_zpow_le_sq_iff.mpr large)).trans le

theorem norm_of_small (h : v.isFinite) (range : -511 ≤ k ∧ k ≤ 510)
    (small : ∀ axis, |real (v.component axis)| ≤ 2 ^ k) :
    Scalar.isFinite v.norm ∧ real v.norm ≤ 2 ^ (k + 1) := by
  have part (axis : Fin 3) : Scalar.isFinite (v.square axis) ∧ real (v.square axis) ≤ 2 ^ (2 * k) :=
    (rounds_square h axis).within (by omega) (sq_nonneg _) (sq_le_two_zpow_iff.mpr (small axis))
  have two : Scalar.isFinite (v.square 0 + v.square 1) ∧
      real (v.square 0 + v.square 1) ≤ 2 ^ (2 * k + 1) :=
    add_within (by omega) (square_nonneg h 0) (square_nonneg h 1) (part 0) (part 1)
  have more : (2 : ℝ) ^ (2 * k) ≤ 2 ^ (2 * k + 1) := zpow_le_zpow_right₀ one_le_two (by omega)
  have three : Scalar.isFinite v.squares ∧ real v.squares ≤ 2 ^ (2 * k + 1 + 1) :=
    add_within (by omega) (nonneg_add (square_nonneg h 0) (square_nonneg h 1)).left
      (square_nonneg h 2) two ⟨(part 2).left, (part 2).right.trans more⟩
  refine (rounds_sqrt three.left (real_nonneg (squares_nonneg h).left)).within (by omega)
    (Real.sqrt_nonneg _) ?_
  rw [Real.sqrt_le_left (by positivity), sq_two_zpow]
  exact three.right.trans_eq (congrArg _ (by omega))

end Vec3

namespace Config

variable {c : Config Float} {d : Vec3 Float}

theorem two_zpow_le_freeTolerance : 2 ^ (-34 : Int) ≤ real Config.freeTolerance := by
  rw [← real_twoPow (by simp)]
  exact real_le_of_le (by decide +kernel) (by decide +kernel) (by decide +kernel)

theorem mode_eq_fixed_iff : c.mode = .fixed d ↔
    ¬ c.direction.norm < freeTolerance ∧ d = c.direction.map (· / c.direction.norm) := by
  rw [mode]
  split
  case isTrue short => exact iff_of_false nofun fun h => h.left short
  case isFalse long => rw [and_iff_right long, Mode.fixed.injEq, eq_comm]

end Config

namespace Vec3

variable {v : Vec3 Float}

theorem freeTolerance_le_norm (long : ¬ v.norm < Config.freeTolerance)
    (finite : Scalar.isFinite v.norm) : 2 ^ (-34 : Int) ≤ real v.norm := by
  have tolerance : Scalar.isFinite (Config.freeTolerance : Float) := by decide +kernel
  refine Config.two_zpow_le_freeTolerance.trans (real_le_of_le tolerance finite ?_)
  exact Rounding.le_of_not_lt (Rounding.isNumber_of_isFinite finite)
    (Rounding.isNumber_of_isFinite tolerance) long

theorem norm_pos (long : ¬ v.norm < Config.freeTolerance) (finite : Scalar.isFinite v.norm) :
    0 < real v.norm :=
  lt_of_lt_of_le (by positivity) (freeTolerance_le_norm long finite)

variable (h : v.isFinite) (long : ¬ v.norm < Config.freeTolerance)
include h long

theorem rounds_div_norm (finite : Scalar.isFinite v.norm) (axis : Fin 3) :
    Rounds (real (v.component axis) / real v.norm) (v.component axis / v.norm) :=
  rounds_div (isFinite_iff.mp h axis) finite (norm_pos long finite).ne'

theorem abs_div_norm (finite : Scalar.isFinite v.norm) (axis : Fin 3) :
    |real (v.component axis) / real v.norm| ≤ 2 ^ (1023 : Int) := by
  rw [abs_div, abs_of_pos (norm_pos long finite)]
  by_cases large : 2 ^ (511 : Int) ≤ |real (v.component axis)|
  case pos =>
    calc |real (v.component axis)| / real v.norm
      _ ≤ 2 ^ (1024 : Int) / 2 ^ (511 : Int) :=
        div_le_div₀ (by positivity) (abs_real_lt _).le (by positivity)
          (le_norm h finite (by simp) large)
      _ = 2 ^ (513 : Int)                    := (zpow_sub₀ two_ne_zero ..).symm
      _ ≤ 2 ^ (1023 : Int)                   := zpow_le_zpow_right₀ one_le_two (by simp)
  case neg =>
    calc |real (v.component axis)| / real v.norm
      _ ≤ 2 ^ (511 : Int) / 2 ^ (-34 : Int) :=
        div_le_div₀ (by positivity) (not_le.mp large).le (by positivity)
          (freeTolerance_le_norm long finite)
      _ = 2 ^ (545 : Int)                   := (zpow_sub₀ two_ne_zero ..).symm
      _ ≤ 2 ^ (1023 : Int)                  := zpow_le_zpow_right₀ one_le_two (by simp)

theorem isFinite_div_norm (axis : Fin 3) : Scalar.isFinite (v.component axis / v.norm) := by
  obtain finite | infinite := finite_or_infinity (norm_nonneg h)
  case inl => exact (rounds_div_norm h long finite axis).isFinite (abs_div_norm h long finite axis)
  case inr => exact (div_infinity (isFinite_iff.mp h axis) infinite).left

-- If all components were small, the direction would be too short.
theorem exists_large (finite : Scalar.isFinite v.norm) :
    ∃ axis, 2 ^ (-100 : Int) ≤ |real (v.component axis)| := by
  by_contra small
  simp only [not_exists, not_le] at small
  have ⟨_, short⟩ := norm_of_small h (by simp) fun axis => (small axis).le
  have : (2 : ℝ) ^ (-100 + 1 : Int) < 2 ^ (-34 : Int) := zpow_lt_zpow_right₀ one_lt_two (by simp)
  exact absurd (freeTolerance_le_norm long finite) (short.trans_lt this).not_ge

theorem div_norm_ne_zero_iff :
    (∃ axis, v.component axis / v.norm != 0) ↔ Scalar.isFinite v.norm := by
  simp only [bne_zero_iff (isFinite_div_norm h long _)]
  obtain finite | infinite := finite_or_infinity (norm_nonneg h)
  case inl =>
    obtain ⟨axis, large⟩ := exists_large h long finite
    have pos := norm_pos long finite
    refine iff_of_true ⟨axis, (rounds_div_norm h long finite axis).real_ne_zero
      (k := -612) (isFinite_div_norm h long axis) (by simp) ?_⟩ finite
    calc (2 : ℝ) ^ (-612 : Int)
      _ = (2 : ℝ) ^ (-100 : Int) / 2 ^ (512 : Int) := zpow_sub₀ two_ne_zero (-100) 512
      _ ≤ |real (v.component axis)| / real v.norm :=
        div_le_div₀ (abs_nonneg _) large pos (norm_le h finite)
      _ = |real (v.component axis) / real v.norm| := by rw [abs_div, abs_of_pos pos]
  case inr =>
    exact iff_of_false (fun ⟨axis, ne⟩ => ne (div_infinity (isFinite_iff.mp h axis) infinite).right)
      (not_isFinite_of_infinity infinite)

end Vec3

theorem Config.Valid.isFinite_direction {α : Type} [Scalar α] {c : Config α} (h : c.Valid) :
    c.direction.isFinite := by
  by_contra infinite
  simp [Valid, faults, faults.direction, infinite] at h

theorem ConstraintMatrix.row?_write_empty {α : Type} {row other : Nat}
    {written blocks : List (Block α)} :
    (empty.write row written).row? other = some blocks ↔ other = row ∧ written = blocks := by
  by_cases eq : other = row
  case pos =>
    rw [eq, row?_write_self, row?_empty, Option.getD_none, List.nil_append, Option.some.injEq,
      and_iff_right rfl]
  case neg =>
    rw [row?_write_of_ne _ _ eq, row?_empty]
    exact iff_of_false nofun fun h => eq h.left

namespace Actuator

theorem triplets_build_ne_nil_iff {α : Type} [Scalar α] [Elementary α] {a : Actuator α} {d : Vec3 α}
    (fixed : a.mode = .fixed d) (body : Body α) (row : Nat) :
    (a.build body .empty row).2.triplets body.size ≠ [] ↔
      (∃ p ∈ a.config.indices, p < body.size) ∧ ∃ axis, (d.component axis != 0) := by
  have matrix : (a.build body .empty row).2 =
      ConstraintMatrix.empty.write row ((a.points body).map (⟨·, d⟩)) := by
    rw [build, fixed]
    rfl
  rw [matrix, ConstraintMatrix.triplets_ne_nil_iff]
  simp only [ConstraintMatrix.row?_write_empty]
  constructor
  case mp =>
    rintro ⟨_, _, ⟨rfl, rfl⟩, b, written, within, nonzero⟩
    obtain ⟨p, mem, rfl⟩ := List.mem_map.mp written
    exact ⟨⟨p, (List.mem_filter.mp mem).left, within⟩, nonzero⟩
  case mpr =>
    rintro ⟨⟨p, mem, within⟩, nonzero⟩
    have point : p ∈ a.points body := List.mem_filter.mpr ⟨mem, decide_eq_true within⟩
    exact ⟨row, _, ⟨rfl, rfl⟩, ⟨p, d⟩, List.mem_map_of_mem point, within, nonzero⟩

theorem usable_iff_isFinite_norm {a : Actuator Float} {d : Vec3 Float} (valid : a.config.Valid)
    (fixed : a.mode = .fixed d) :
    d.isFinite ∧ ((∃ axis, d.component axis != 0) ↔ Scalar.isFinite a.config.direction.norm) ∧
      (∀ (body : Body Float) (row : Nat), (∃ p ∈ a.config.indices, p < body.size) →
        ((a.build body .empty row).2.triplets body.size ≠ [] ↔
          Scalar.isFinite a.config.direction.norm)) ∧
      ((∀ axis, |real (a.config.direction.component axis)| ≤ 2 ^ (510 : Int)) →
        Scalar.isFinite a.config.direction.norm) := by
  have finite := valid.isFinite_direction
  obtain ⟨long, eq⟩ := Config.mode_eq_fixed_iff.mp fixed
  have nonzero : (∃ axis, d.component axis != 0) ↔ Scalar.isFinite a.config.direction.norm := by
    simp only [eq, Vec3.component_map]
    exact Vec3.div_norm_ne_zero_iff finite long
  refine ⟨?finite, nonzero, fun body row within => ?triplets, fun small => ?norm⟩
  case finite =>
    rw [eq, Vec3.isFinite_iff]
    exact fun axis => Vec3.component_map .. ▸ Vec3.isFinite_div_norm finite long axis
  case triplets => rw [triplets_build_ne_nil_iff fixed, and_iff_right within, nonzero]
  case norm     => exact (Vec3.norm_of_small finite (by simp) small).left

def along (direction : Vec3 Float) : Actuator Float :=
  .new "cable" { Config.unset with indices := [0], direction }

theorem usable_along_hypotenuse :
    (along ⟨0, 3, 4⟩).config.Valid ∧ (along ⟨0, 3, 4⟩).mode = .fixed ⟨0, 3 / 5, 4 / 5⟩ ∧
      (∃ p ∈ (along ⟨0, 3, 4⟩).config.indices, p < 1) ∧
      ((along ⟨0, 3, 4⟩).build (.ofPoints 1 [0]) .empty 0).2.triplets 1 ≠ [] := by
  have valid : (along ⟨0, 3, 4⟩).config.Valid := by decide +kernel
  have fixed : (along ⟨0, 3, 4⟩).mode = .fixed ⟨0, 3 / 5, 4 / 5⟩ := by decide +kernel
  have within : ∃ p ∈ (along ⟨0, 3, 4⟩).config.indices, p < 1 :=
    ⟨0, List.mem_singleton_self 0, one_pos⟩
  have ⟨_, _, usable, _⟩ := usable_iff_isFinite_norm valid fixed
  exact ⟨valid, fixed, within, (usable (.ofPoints 1 [0]) 0 within).mpr (by decide +kernel)⟩

-- The square of 1e200 overflows.
theorem unusable_of_overflow :
    (along ⟨1e200, 0, 0⟩).config.Valid ∧ (along ⟨1e200, 0, 0⟩).mode = .fixed 0 ∧
      ((along ⟨1e200, 0, 0⟩).build (.ofPoints 1 [0]) .empty 0).2.triplets 1 = [] := by
  decide +kernel

end Actuator

end PointForce
