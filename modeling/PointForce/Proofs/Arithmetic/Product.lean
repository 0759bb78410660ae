import PointForce.Proofs.Arithmetic.Sum

-- The unit of the line does not matter to a sum, but it does to a product, so that exact results
-- are given by the numbers that values stand for.

namespace PointForce.Binary64

open Float.Model Float.Model.UnpackedFloat

variable {u v : UnpackedFloat} {s s' : Sign} {m m' : Nat} {e e' : Int}

noncomputable def value : UnpackedFloat → ℝ
  | .finite s m e _ => factor s * scaled m e
  | _               => 0

noncomputable def placeOf (x : ℝ) : EReal :=
  (scaled x 1074 : ℝ)

theorem placeOf_scaled (s : Sign) (x : ℝ) (e : Int) :
    placeOf (factor s * scaled x e) = ((factor s * size x e : ℝ) : EReal) := by
  rw [placeOf, size, scaled_add, scaled, mul_assoc]
  rfl

theorem placeOf_add (x y : ℝ) : placeOf (x + y) = placeOf x + placeOf y :=
  congrArg Real.toEReal (add_mul ..)

theorem placeOf_le_iff {x y : ℝ} : placeOf x ≤ placeOf y ↔ x ≤ y := by
  rw [placeOf, placeOf, EReal.coe_le_coe_iff]
  exact mul_le_mul_iff_left₀ (by positivity)

theorem placeOf_zero : placeOf 0 = 0 :=
  congrArg Real.toEReal (zero_mul _)

theorem place_eq_placeOf (h : Canonical u) (finite : u.isFinite) : place u = placeOf (value u) := by
  cases u
  case finite s m e pos => rw [place, cast_units s m h.left.least, value, placeOf_scaled]
  case zero => exact placeOf_zero.symm
  all_goals cases finite

theorem factor_mul : factor (s * s') = factor s * factor s' := by
  rw [factor, factor, factor, ← Int.cast_mul]
  cases s <;> cases s' <;> rfl

theorem factor_div : factor (s / s') = factor s / factor s' := by
  have opposite : s / s' = s * s' := by cases s <;> cases s' <;> rfl
  have self : factor s' * factor s' = 1 := by
    rw [← factor_mul, ← Int.cast_one]
    cases s' <;> rfl
  rw [opposite, factor_mul, eq_div_iff (left_ne_zero_of_mul_eq_one self), mul_assoc, self, mul_one]

theorem le_target_of_full (full : 2 ^ 52 ≤ m ∨ e ≤ -1074) : e ≤ target m e := by
  rw [target_eq]
  cases full
  case inl full =>
    have : 52 ≤ m.log2 := (Nat.le_log2 (by omega)).mpr full
    omega
  case inr => omega

theorem product_full (h : Normal m e) (h' : Normal m' e') (pos : 0 < m) (pos' : 0 < m') :
    2 ^ 52 ≤ m * m' ∨ e + e' ≤ -1074 := by
  have le : m ≤ m * m' := Nat.le_mul_of_pos_right m pos'
  have le' : m' ≤ m * m' := Nat.le_mul_of_pos_left m' pos
  have := h.full
  have := h'.full
  omega

theorem faithful_zero (s : Sign) : Rounded (.zero s) ∧ Faithful (placeOf 0) (overflow (.zero s)) :=
  faithful_of_exact trivial rfl placeOf_zero

theorem faithful_mul (hu : Canonical u) (hv : Canonical v) (fu : u.isFinite) (fv : v.isFinite) :
    Rounded (UnpackedFloat.mul .binary64 u v) ∧
    Faithful (placeOf (value u * value v)) (overflow (UnpackedFloat.mul .binary64 u v)) := by
  cases u <;> cases v
  case finite.finite s m e pos s' m' e' pos' =>
    have exact : value (.finite s m e pos) * value (.finite s' m' e' pos') =
        factor (s * s') * scaled (m * m' : Nat) (e + e') := by
      rw [value, value, factor_mul, scaled, scaled, scaled, zpow_add₀ two_ne_zero, Nat.cast_mul,
        mul_mul_mul_comm, mul_mul_mul_comm (m : ℝ)]
    rw [exact, placeOf_scaled]
    exact faithful_roundWithAccuracy (s * s') (holds_exact (m * m'))
      (le_target_of_full (product_full hu.left hv.left pos pos'))
  case zero.zero | zero.finite => exact (zero_mul (_ : ℝ)).symm ▸ faithful_zero _
  case finite.zero => exact (mul_zero (_ : ℝ)).symm ▸ faithful_zero _
  all_goals first | cases fu; done | cases fv

theorem holds_quotient (a : Nat) {b : Nat} (pos : 0 < b) :
    Holds (extended (a / b) (accuracyOfFraction (a % b) b)) (a / b) := by
  have pos' : (0 : ℝ) < b := by exact_mod_cast pos
  have division : (b : ℝ) * (a / b : Nat) + (a % b : Nat) = a := by
    exact_mod_cast Nat.div_add_mod a b
  have small : ((a % b : Nat) : ℝ) < b := by exact_mod_cast Nat.mod_lt a pos
  rw [accuracyOfFraction]
  split
  case isTrue divides =>
    rw [divides, Nat.cast_zero, add_zero] at division
    rw [← division, mul_div_cancel_left₀ _ pos'.ne']
    exact holds_exact _
  case isFalse rest =>
    have rest : (0 : ℝ) < (a % b : Nat) := by exact_mod_cast Nat.pos_of_ne_zero rest
    refine holds_inexact ?_ ?_ _
    · rw [lt_div_iff₀ pos']
      linarith
    · rw [div_lt_iff₀ pos']
      linarith

-- The dividend is given so many bits that the quotient fills a mantissa.
theorem quotient_full {k : Nat} (pos : 0 < m) (pos' : 0 < m')
    (enough : m'.log2 + 53 ≤ m.log2 + k) : 2 ^ 52 ≤ m * 2 ^ k / m' := by
  rw [Nat.le_div_iff_mul_le pos']
  calc 2 ^ 52 * m'
    _ ≤ 2 ^ 52 * 2 ^ (m'.log2 + 1) := Nat.mul_le_mul_left _ Nat.lt_log2_self.le
    _ = 2 ^ (m'.log2 + 53)         := by ring
    _ ≤ m * 2 ^ k                  := two_pow_le_mul pos enough

theorem faithful_div (hu : Canonical u) (hv : Canonical v) (fu : u.isFinite) (fv : v.isFinite)
    (ne : value v ≠ 0) :
    Rounded (UnpackedFloat.div .binary64 u v) ∧
    Faithful (placeOf (value u / value v)) (overflow (UnpackedFloat.div .binary64 u v)) := by
  cases u <;> cases v
  case finite.finite s m e pos s' m' e' pos' =>
    obtain ⟨k, t, core, exponent, full⟩ : ∃ (k : Nat) (t : Int),
        divCore .binary64 m e m' e' =
          (m * 2 ^ k / m', t, accuracyOfFraction (m * 2 ^ k % m') m') ∧
        e - e' = t + k ∧ (m'.log2 + 53 ≤ m.log2 + k ∨ t ≤ -1074) := by
      refine ⟨_, _, by rw [divCore, Nat.shiftLeft_eq], ?_, ?_⟩ <;>
        simp only [targetExponent_eq, totalExponent] <;> omega
    have exact : value (.finite s m e pos) / value (.finite s' m' e' pos') =
        factor (s / s') * scaled ((m * 2 ^ k : Nat) / m') t := by
      rw [value, value, factor_div, mul_div_mul_comm, scaled, scaled, scaled, mul_div_mul_comm,
        ← zpow_sub₀ two_ne_zero, exponent, zpow_add₀ two_ne_zero, zpow_natCast, Nat.cast_mul,
        Nat.cast_pow, Nat.cast_two]
      ring
    have rounded := faithful_roundWithAccuracy (s / s') (holds_quotient (m * 2 ^ k) pos')
      (le_target_of_full (full.imp_left (quotient_full pos pos')))
    rw [exact, placeOf_scaled, UnpackedFloat.div, core]
    exact rounded
  case zero.finite => exact (zero_div (_ : ℝ)).symm ▸ faithful_zero _
  case zero.zero | finite.zero => exact absurd rfl ne
  all_goals first | cases fu; done | cases fv

def accuracyOfRoot (a : Nat) : Accuracy :=
  if a - Nat.sqrt a * Nat.sqrt a = 0 then .exact
  else .inexact (if a - Nat.sqrt a * Nat.sqrt a ≤ Nat.sqrt a then .lt else .gt)

theorem holds_root (a : Nat) : Holds (extended (Nat.sqrt a) (accuracyOfRoot a)) √a := by
  have below : Nat.sqrt a * Nat.sqrt a ≤ a := Nat.sqrt_le a
  have above : a < (Nat.sqrt a + 1) * (Nat.sqrt a + 1) := Nat.lt_succ_sqrt a
  rw [accuracyOfRoot]
  split
  case isTrue rest =>
    have square : Nat.sqrt a * Nat.sqrt a = a := by omega
    have root : √a = Nat.sqrt a := by
      rw [Real.sqrt_eq_iff_mul_self_eq (Nat.cast_nonneg _) (Nat.cast_nonneg _)]
      exact_mod_cast square.symm
    exact root ▸ holds_exact _
  case isFalse rest =>
    refine holds_inexact ?_ ?_ _
    · rw [Real.lt_sqrt (Nat.cast_nonneg _), sq]
      exact_mod_cast show Nat.sqrt a * Nat.sqrt a < a by omega
    · rw [Real.sqrt_lt' (by positivity), sq]
      exact_mod_cast above

-- The root has half the bits.
theorem root_full {k : Nat} (pos : 0 < m) (enough : 104 ≤ m.log2 + k) :
    2 ^ 52 ≤ Nat.sqrt (m * 2 ^ k) := by
  rw [Nat.le_sqrt, ← pow_add]
  exact two_pow_le_mul pos enough

theorem faithful_sqrt (hu : Canonical u) (finite : u.isFinite) (nonneg : 0 ≤ value u) :
    Rounded (UnpackedFloat.sqrt .binary64 u) ∧
    Faithful (placeOf √(value u)) (overflow (UnpackedFloat.sqrt .binary64 u)) := by
  rcases u with _ | _ | _ | ⟨_ | _, m, e, pos⟩
  case finite.positive =>
    obtain ⟨k, t, core, exponent, full⟩ : ∃ (k : Nat) (t : Int),
        sqrtCore .binary64 m e =
          (Nat.sqrt (m * 2 ^ k), t, accuracyOfRoot (m * 2 ^ k)) ∧
        e = t + t + k ∧ (104 ≤ m.log2 + k ∨ t ≤ -1074) := by
      refine ⟨_, _, by rw [sqrtCore, Nat.shiftLeft_eq]; rfl, ?_, ?_⟩ <;>
        simp only [targetExponent_eq, totalExponent, ← Int.div_def] <;> omega
    have given : value (.finite .positive m e pos) = (m * 2 ^ k : Nat) * (2 ^ t) ^ 2 := by
      rw [value, factor_positive, one_mul, scaled, exponent, zpow_add₀ two_ne_zero,
        zpow_add₀ two_ne_zero, zpow_natCast, Nat.cast_mul, Nat.cast_pow, Nat.cast_two]
      ring
    have exact : √(value (.finite .positive m e pos)) =
        factor .positive * scaled √(m * 2 ^ k : Nat) t := by
      rw [given, Real.sqrt_mul (Nat.cast_nonneg _), Real.sqrt_sq (by positivity), factor_positive,
        one_mul, scaled]
    have rounded := faithful_roundWithAccuracy .positive (holds_root (m * 2 ^ k))
      (le_target_of_full (full.imp_left (root_full pos)))
    rw [exact, placeOf_scaled, UnpackedFloat.sqrt, core]
    exact rounded
  case zero s => exact Real.sqrt_zero.symm ▸ faithful_zero s
  case finite.negative =>
    have pos : 0 < scaled m e := mul_pos (Nat.cast_pos.mpr pos) (by positivity)
    rw [value, factor_negative] at nonneg
    linarith
  all_goals cases finite

end PointForce.Binary64
