import Mathlib.Data.Nat.Log
import Mathlib.Data.Real.Basic
import Mathlib.Tactic.Linarith
import Mathlib.Tactic.Ring

-- Mantissas that are rounded to fewer bits. Which of its two neighbours a number is rounded to
-- plays no part here, only that it does not get past either of them.

namespace PointForce.Binary64

open Float.Model.UnpackedFloat

-- The two residual bits are clear if there is no fraction.
structure Holds (em : ExtendedMantissa) (x : ℝ) : Prop where
  lower : em.mantissa ≤ x
  upper : x < em.mantissa + 1
  clear : em.roundBit = false ∧ em.stickyBit = false ↔ x = em.mantissa

structure RoundedTo (x : ℝ) (rounded : Nat) : Prop where
  le : ∀ n : Nat, n ≤ x → n ≤ rounded
  ge : ∀ n : Nat, x ≤ n → rounded ≤ n

abbrev extended (m : Nat) (accuracy : Accuracy) : ExtendedMantissa :=
  .ofMantissaAndAccuracy m accuracy

theorem holds_exact (m : Nat) : Holds (extended m .exact) m where
  lower := le_rfl
  upper := lt_add_one _
  clear := iff_of_true ⟨rfl, rfl⟩ rfl

theorem holds_inexact {m : Nat} {x : ℝ} (lower : m < x) (upper : x < m + 1) (side : Ordering) :
    Holds (extended m (.inexact side)) x := by
  cases side <;> exact ⟨lower.le, upper, iff_of_false nofun lower.ne'⟩

theorem roundedMantissa_of_clear {em : ExtendedMantissa} (half : em.roundBit = false)
    (sticky : em.stickyBit = false) : em.roundedMantissa = em.mantissa := by
  obtain ⟨_, _, _⟩ := em
  subst half sticky
  rfl

theorem roundedMantissa_bounds (em : ExtendedMantissa) :
    em.mantissa ≤ em.roundedMantissa ∧ em.roundedMantissa ≤ em.mantissa + 1 := by
  obtain ⟨m, half, sticky⟩ := em
  have tie := Nat.mod_lt m Nat.two_pos
  cases half <;> cases sticky <;>
    simp only [ExtendedMantissa.roundedMantissa, ExtendedMantissa.accuracy,
      Accuracy.roundToNearestEven] <;> omega

namespace Holds

variable {em : ExtendedMantissa} {x : ℝ}

theorem shiftRightOne (h : Holds em x) : Holds em.shiftRightOne (x / 2) := by
  obtain ⟨lower, upper, clear⟩ := h
  have halves : (2 : ℝ) * em.shiftRightOne.mantissa + (em.mantissa % 2 : Nat) = em.mantissa := by
    exact_mod_cast Nat.div_add_mod em.mantissa 2
  obtain even | odd := Nat.mod_two_eq_zero_or_one em.mantissa
  case inl =>
    rw [even, Nat.cast_zero, add_zero] at halves
    have half : em.shiftRightOne.roundBit = false := bne_eq_false_iff_eq.mpr even
    refine ⟨by linarith, by linarith, ?_⟩
    rw [half, div_eq_iff two_ne_zero, mul_comm, halves, ← clear, and_iff_right rfl]
    exact Bool.or_eq_false_iff
  case inr =>
    rw [odd, Nat.cast_one] at halves
    have half : em.shiftRightOne.roundBit = true := bne_iff_ne.mpr (odd ▸ one_ne_zero)
    refine ⟨by linarith, by linarith, iff_of_false (by simp [half]) fun eq => ?_⟩
    linarith

theorem shiftRight (h : Holds em x) : ∀ k : Nat, Holds (em >>> k) (x / 2 ^ k)
  | 0     => by
    rw [pow_zero, div_one]
    exact h
  | k + 1 => by
    rw [pow_succ, ← div_div]
    exact (h.shiftRight k).shiftRightOne

theorem roundedTo (h : Holds em x) : RoundedTo x em.roundedMantissa := by
  have ⟨below, above⟩ := roundedMantissa_bounds em
  refine ⟨fun n le => ?_, fun n ge => ?_⟩
  · have : n < em.mantissa + 1 := by exact_mod_cast le.trans_lt h.upper
    omega
  · by_cases clear : x = em.mantissa
    case pos =>
      have ⟨half, sticky⟩ := h.clear.mpr clear
      rw [roundedMantissa_of_clear half sticky]
      exact_mod_cast clear.symm.trans_le ge
    case neg =>
      have : em.mantissa < n := by exact_mod_cast (h.lower.lt_of_ne' clear).trans_le ge
      omega

end Holds

end PointForce.Binary64
