import Mathlib
import PointForce.Proofs.Arithmetic.Shift

-- The sizes that binary64 can represent, and what rounding does to a size. Sizes are counted in
-- units of the smallest one, which is what makes the ones that can be represented natural numbers.

namespace PointForce.Binary64

open Float.Model Float.Model.UnpackedFloat

def magnitude (m : Nat) (e : Int) : Nat :=
  m * 2 ^ (e + 1074).toNat

structure Normal (m : Nat) (e : Int) : Prop where
  bits  : m < 2 ^ 53
  least : -1074 ≤ e
  full  : 2 ^ 52 ≤ m ∨ e = -1074

theorem magnitude_pos {m : Nat} (pos : 0 < m) (e : Int) : 0 < magnitude m e :=
  Nat.mul_pos pos (Nat.two_pow_pos _)

theorem magnitude_lt {m m' : Nat} {e e' : Int} (h : Normal m e) (h' : Normal m' e') (lt : e < e') :
    magnitude m e < magnitude m' e' := by
  have full : 2 ^ 52 ≤ m' := h'.full.resolve_right (by have := h.least; omega)
  calc m * 2 ^ (e + 1074).toNat
    _ < 2 ^ 53 * 2 ^ (e + 1074).toNat       := Nat.mul_lt_mul_of_pos_right h.bits (by simp)
    _ = 2 ^ 52 * 2 ^ ((e + 1074).toNat + 1) := by ring
    _ ≤ m' * 2 ^ (e' + 1074).toNat          :=
      Nat.mul_le_mul full (Nat.pow_le_pow_right (by simp) (by have := h.least; omega))

abbrev beyond : Nat :=
  magnitude (2 ^ 52) 972

theorem normal_beyond : Normal (2 ^ 52) 972 where
  bits  := by simp
  least := by simp
  full  := .inl le_rfl

theorem beyond_le_magnitude {m : Nat} {e : Int} (h : Normal m e) (large : ¬ e ≤ 971) :
    beyond ≤ magnitude m e := by
  obtain rfl | lt := (show 972 ≤ e by omega).eq_or_lt
  case inl => exact Nat.mul_le_mul_right _ (h.full.resolve_right (by simp))
  case inr => exact (magnitude_lt normal_beyond h lt).le

noncomputable def scaled (x : ℝ) (e : Int) : ℝ :=
  x * 2 ^ e

theorem scaled_add (x : ℝ) (e d : Int) : scaled x (e + d) = scaled (scaled x e) d := by
  rw [scaled, scaled, scaled, zpow_add₀ two_ne_zero, mul_assoc]

theorem scaled_natCast (x : ℝ) (k : Nat) : scaled x k = x * 2 ^ k := by
  rw [scaled, zpow_natCast]

noncomputable def size (x : ℝ) (e : Int) : ℝ :=
  scaled x (e + 1074)

theorem size_mul (c x : ℝ) (e : Int) : size (c * x) e = c * size x e :=
  mul_assoc ..

theorem size_add (x y : ℝ) (e : Int) : size (x + y) e = size x e + size y e :=
  add_mul ..

theorem size_natCast (m : Nat) {e : Int} (least : -1074 ≤ e) : size m e = magnitude m e := by
  rw [size, ← Int.toNat_of_nonneg (by omega : 0 ≤ e + 1074), scaled_natCast, magnitude,
    Nat.cast_mul, Nat.cast_pow, Nat.cast_two]

theorem size_mul_two_pow (x : ℝ) (e : Int) (k : Nat) : size (x * 2 ^ k) e = size x (e + k) := by
  rw [size, size, ← scaled_natCast, ← scaled_add]
  congr 1
  omega

-- Sizes that need not more bits than a mantissa has, however large they are.
def OnGrid (z : Nat) : Prop :=
  ∃ j i : Nat, j < 2 ^ 53 ∧ z = j * 2 ^ i

theorem Normal.onGrid {m : Nat} {e : Int} (h : Normal m e) : OnGrid (magnitude m e) :=
  ⟨m, _, h.bits, rfl⟩

-- No size that can be represented lies strictly between an exact size and the rounded one.
def Next (given : ℝ) (rounded : Nat) : Prop :=
  ∀ z : Nat, OnGrid z → (z ≤ given → z ≤ rounded) ∧ (given ≤ z → rounded ≤ z)

abbrev target (m : Nat) (e : Int) : Int :=
  Format.binary64.targetExponent (totalExponent m e)

theorem targetExponent_eq (t : Int) : Format.binary64.targetExponent t = max (t - 53) (-1074) := by
  have mantissa : Format.binary64.mantissaBits = 53 := rfl
  have least : Format.binary64.minExponent = -1074 := by decide
  rw [Format.targetExponent, mantissa, least]
  omega

theorem target_eq (m : Nat) (e : Int) : target m e = max (m.log2 + e - 52) (-1074) := by
  rw [target, targetExponent_eq, totalExponent]
  omega

section Rounded

variable {m k r : Nat} {e : Int} {x : ℝ} (lower : m ≤ x) (upper : x < m + 1)
  (shift : target m e = e + k) (rounded : RoundedTo (x / 2 ^ k) r)
include shift

include upper rounded in
theorem rounded_le : r ≤ 2 ^ 53 := by
  refine rounded.ge _ ?_
  have few : m + 1 ≤ 2 ^ 53 * 2 ^ k := by
    rw [target_eq] at shift
    rw [← pow_add]
    exact Nat.lt_log2_self.trans_le (Nat.pow_le_pow_right (by simp) (by omega))
  rw [div_le_iff₀ (by positivity)]
  exact upper.le.trans (by exact_mod_cast few)

include lower in
theorem full_of_target_ne (ne : target m e ≠ -1074) : 2 ^ 52 ≤ x / 2 ^ k := by
  have many : 2 ^ 52 * 2 ^ k ≤ m := by
    rw [target_eq] at shift ne
    rw [← pow_add]
    have pos : m ≠ 0 := by
      rintro rfl
      rw [Nat.log2_zero] at shift ne
      omega
    exact (Nat.pow_le_pow_right (by simp) (by omega)).trans (Nat.log2_self_le pos)
  rw [le_div_iff₀ (by positivity)]
  exact le_trans (by exact_mod_cast many) lower

include lower rounded in
theorem rounded_full (ne : target m e ≠ -1074) : 2 ^ 52 ≤ r :=
  rounded.le _ (by exact_mod_cast full_of_target_ne lower shift ne)

-- A size on a finer grid than the rounded one has too few bits to come near the exact one.
include lower rounded in
theorem next_of_roundedTo : Next (size x e) (magnitude r (e + k)) := by
  obtain ⟨a, ha⟩ : ∃ a : Nat, e + k + 1074 = a := ⟨(e + k + 1074).toNat, by
    rw [target_eq] at shift
    omega⟩
  have given : size x e = x / 2 ^ k * 2 ^ a :=
    calc size x e
      _ = size (x / 2 ^ k * 2 ^ k) e := by rw [div_mul_cancel₀ _ (by positivity)]
      _ = size (x / 2 ^ k) (e + k)   := size_mul_two_pow ..
      _ = x / 2 ^ k * 2 ^ a          := by rw [size, ha, scaled_natCast]
  have result : magnitude r (e + k) = r * 2 ^ a := by
    rw [magnitude, ha, Int.toNat_natCast]
  rintro z ⟨j, i, few, rfl⟩
  rw [given, result]
  by_cases coarse : a ≤ i
  case pos =>
    obtain ⟨d, rfl⟩ := Nat.exists_eq_add_of_le coarse
    have multiple : j * 2 ^ (a + d) = j * 2 ^ d * 2 ^ a := by ring
    have pos : (0 : ℝ) < 2 ^ a := by positivity
    rw [multiple, Nat.cast_mul, Nat.cast_pow, Nat.cast_two, mul_le_mul_iff_left₀ pos,
      mul_le_mul_iff_left₀ pos]
    refine ⟨fun le => Nat.mul_le_mul_right _ (rounded.le _ le), fun ge =>
      Nat.mul_le_mul_right _ (rounded.ge _ ge)⟩
  case neg =>
    have ne : target m e ≠ -1074 := by omega
    have small : j * 2 ^ i < 2 ^ 52 * 2 ^ a :=
      calc j * 2 ^ i
        _ < 2 ^ 53 * 2 ^ i       := Nat.mul_lt_mul_of_pos_right few (by simp)
        _ = 2 ^ 52 * 2 ^ (i + 1) := by ring
        _ ≤ 2 ^ 52 * 2 ^ a       :=
          Nat.mul_le_mul_left _ (Nat.pow_le_pow_right (by simp) (by omega))
    have full := Nat.mul_le_mul_right (2 ^ a) (rounded_full lower shift rounded ne)
    have wide : ((j * 2 ^ i : Nat) : ℝ) < x / 2 ^ k * 2 ^ a :=
      calc ((j * 2 ^ i : Nat) : ℝ)
        _ < ((2 ^ 52 * 2 ^ a : Nat) : ℝ) := by exact_mod_cast small
        _ = 2 ^ 52 * 2 ^ a               := by norm_num
        _ ≤ x / 2 ^ k * 2 ^ a            :=
          mul_le_mul_of_nonneg_right (full_of_target_ne lower shift ne) (by positivity)
    exact ⟨fun _ => small.le.trans full, fun ge => absurd ge wide.not_ge⟩

end Rounded

-- Rounding up may take one bit too many, which then moves into the exponent.
theorem shiftToTargetExponent_of_le {r : Nat} {t : Int} (pos : 0 < r) (bits : r ≤ 2 ^ 53)
    (least : -1074 ≤ t) (full : 2 ^ 52 ≤ r ∨ t = -1074) :
    ∃ m e, 0 < m ∧ shiftToTargetExponent .binary64 r t .exact = (extended m .exact, e) ∧
      Normal m e ∧ magnitude m e = magnitude r t := by
  cases bits.lt_or_eq
  case inl lt =>
    have few : r.log2 < 53 := (Nat.log2_lt pos.ne').mpr lt
    have fits : target r t ≤ t := by rw [target_eq]; omega
    have none : (target r t - t).toNat = 0 := by omega
    refine ⟨r, t, pos, ?_, ⟨lt, least, full⟩, rfl⟩
    rw [shiftToTargetExponent, shiftToExponent, none]
    exact Prod.ext rfl (Int.add_zero t)
  case inr eq =>
    subst eq
    have one : target (2 ^ 53) t - t = 1 := by rw [target_eq, Nat.log2_two_pow]; omega
    refine ⟨2 ^ 52, t + 1, by simp, ?_, ⟨by simp, by omega, .inl le_rfl⟩, ?_⟩
    · rw [shiftToTargetExponent, shiftToExponent, one]
      rfl
    · rw [magnitude, magnitude, show (t + 1 + 1074).toNat = (t + 1074).toNat + 1 by omega]
      ring

theorem shiftToTargetExponent_zero (t : Int) :
    (shiftToTargetExponent .binary64 0 t .exact).1.mantissa = 0 := by
  have h := (holds_exact 0).shiftRight (target 0 t - t).toNat
  have : ((extended 0 .exact >>> (target 0 t - t).toNat).mantissa : ℝ) ≤ 0 := by
    simpa using h.lower
  exact Nat.le_zero.mp (by exact_mod_cast this)

theorem roundWithAccuracy_eq {m : Nat} {e : Int} {accuracy : Accuracy} {x : ℝ}
    (holds : Holds (extended m accuracy) x) (above : e ≤ target m e) :
    ∃ r t, (0 < r → Normal r t) ∧ Next (size x e) (magnitude r t) ∧
      ∀ s, roundWithAccuracy .binary64 s m e accuracy =
        if h : r = 0 then .zero s else .finite s r t (Nat.pos_of_ne_zero h) := by
  obtain ⟨k, shift⟩ : ∃ k : Nat, target m e = e + k := ⟨(target m e - e).toNat, by omega⟩
  have mantissa : (extended m accuracy).mantissa = m := by
    rcases accuracy with _ | _ | _ | _ <;> rfl
  have rounded := (holds.shiftRight k).roundedTo
  obtain ⟨lower, upper, _⟩ := holds
  rw [mantissa] at lower upper
  have first :
      shiftToTargetExponent .binary64 m e accuracy = (extended m accuracy >>> k, e + k) := by
    rw [shiftToTargetExponent, shiftToExponent, show (target m e - e).toNat = k by omega]
  have next := next_of_roundedTo lower shift rounded
  obtain zero | pos := (extended m accuracy >>> k).roundedMantissa.eq_zero_or_pos
  case inl =>
    refine ⟨0, e + k, nofun, ?_, fun s => ?_⟩
    · rwa [zero] at next
    · simp only [roundWithAccuracy, first, zero, shiftToTargetExponent_zero]
      rfl
  case inr =>
    obtain ⟨r, t, hr, second, normal, same⟩ := shiftToTargetExponent_of_le pos
      (rounded_le upper shift rounded) (t := e + k) (by rw [target_eq] at shift; omega) (by
        have := rounded_full lower shift rounded
        omega)
    refine ⟨r, t, fun _ => normal, same ▸ next, fun s => ?_⟩
    simp only [roundWithAccuracy, first, second]
    rfl

theorem log2_mul_two_pow {m : Nat} (pos : 0 < m) (d : Nat) : (m * 2 ^ d).log2 = m.log2 + d := by
  rw [Nat.log2_eq_iff (Nat.mul_pos pos (Nat.two_pow_pos d)).ne', pow_add, Nat.add_right_comm,
    pow_add]
  exact ⟨Nat.mul_le_mul_right _ (Nat.log2_self_le pos.ne'),
    Nat.mul_lt_mul_of_pos_right Nat.lt_log2_self (Nat.two_pow_pos d)⟩

theorem two_pow_le_mul {m n k : Nat} (pos : 0 < m) (bits : n ≤ m.log2 + k) : 2 ^ n ≤ m * 2 ^ k := by
  rw [← log2_mul_two_pow pos] at bits
  exact (Nat.le_log2 (Nat.mul_pos pos (Nat.two_pow_pos k)).ne').mp bits

theorem decreaseExponent_eq {m : Nat} {e t : Int} {d : Nat} (h : (e - t).toNat = d) :
    decreaseExponent m e t = (m * 2 ^ d, e - d) := by
  rw [decreaseExponent, h, Nat.shiftLeft_eq]

end PointForce.Binary64
