import PointForce.Proofs.Arithmetic.Binary64
import PointForce.Proofs.Arithmetic.Product

-- The finite values of binary64 as real numbers. A result that is rounded from a real number is
-- within the same powers of two.

namespace PointForce.Binary64

open Float.Model Float.Model.UnpackedFloat

variable {x y w : Float} {r : ℝ} {k : Int}

noncomputable def real (x : Float) : ℝ :=
  value (unpacked x)

theorem place_eq (h : Scalar.isFinite x) : Rounding.place x = placeOf (real x) :=
  place_eq_placeOf (canonical_unpacked x) h

theorem real_le_of_le (hx : Scalar.isFinite x) (hy : Scalar.isFinite y) (le : x ≤ y) :
    real x ≤ real y := by
  rw [← placeOf_le_iff, ← place_eq hx, ← place_eq hy]
  exact (Rounding.le_iff.mp le).right

theorem isFinite_opposite (h : Scalar.isFinite x) : Scalar.isFinite (-x) := by
  change (unpacked (-x)).isFinite
  rw [unpacked_neg, isFinite_neg]
  exact h

theorem real_neg (x : Float) : real (-x) = -real x := by
  rw [real, unpacked_neg, real]
  cases unpacked x
  case finite s m e pos =>
    rw [UnpackedFloat.neg, value, value, factor, apply_neg, Int.cast_neg, neg_mul]
    rfl
  all_goals exact neg_zero.symm

theorem abs_factor (s : Sign) : |factor s| = 1 := by
  cases s
  case positive => rw [factor_positive, abs_one]
  case negative => rw [factor_negative, abs_neg, abs_one]

theorem abs_real_lt (x : Float) : |real x| < 2 ^ (1024 : Int) := by
  have canonical := canonical_unpacked x
  rw [real]
  cases eq : unpacked x
  case finite s m e pos =>
    rw [eq] at canonical
    have size : |value (.finite s m e pos)| = m * 2 ^ e := by
      rw [value, abs_mul, abs_factor, one_mul, scaled, abs_of_nonneg (by positivity)]
    rw [size]
    calc (m : ℝ) * 2 ^ e
      _ < 2 ^ 53 * 2 ^ e           :=
        mul_lt_mul_of_pos_right (by exact_mod_cast canonical.left.bits) (by positivity)
      _ ≤ 2 ^ 53 * 2 ^ (971 : Int) :=
        mul_le_mul_of_nonneg_left (zpow_le_zpow_right₀ one_le_two canonical.right) (by positivity)
      _ = 2 ^ (1024 : Int)         := by rw [← zpow_natCast, ← zpow_add₀ two_ne_zero]; rfl
  all_goals simp [value]

def twoPow (k : Int) : Float :=
  .ofModel (Float.Model.pack (.finite .positive (2 ^ 52) (k - 52) (by simp)))

theorem unpacked_twoPow (range : -1022 ≤ k ∧ k ≤ 1023) :
    unpacked (twoPow k) = .finite .positive (2 ^ 52) (k - 52) (by simp) := by
  have normal : Normal (2 ^ 52) (k - 52) := ⟨by simp, by omega, .inl le_rfl⟩
  exact (unpacked_pack (u := .finite .positive _ _ _) normal).trans (if_pos (by omega))

theorem isFinite_twoPow (range : -1022 ≤ k ∧ k ≤ 1023) : Scalar.isFinite (twoPow k) := by
  change (unpacked (twoPow k)).isFinite
  rw [unpacked_twoPow range]
  rfl

theorem real_twoPow (range : -1022 ≤ k ∧ k ≤ 1023) : real (twoPow k) = 2 ^ k := by
  rw [real, unpacked_twoPow range, value, factor_positive, one_mul, scaled, Nat.cast_pow,
    Nat.cast_two, ← zpow_natCast, ← zpow_add₀ two_ne_zero]
  congr 1
  exact add_sub_cancel ..

theorem sq_two_zpow (k : Int) : ((2 : ℝ) ^ k) ^ 2 = 2 ^ (2 * k) := by
  rw [← zpow_natCast, ← zpow_mul, mul_comm]
  rfl

theorem sq_le_two_zpow_iff {r : ℝ} : r ^ 2 ≤ 2 ^ (2 * k) ↔ |r| ≤ 2 ^ k := by
  rw [← sq_two_zpow, sq_le_sq, abs_of_pos (by positivity : (0 : ℝ) < 2 ^ k)]

theorem two_zpow_le_sq_iff {r : ℝ} : 2 ^ (2 * k) ≤ r ^ 2 ↔ 2 ^ k ≤ |r| := by
  rw [← sq_two_zpow, sq_le_sq, abs_of_pos (by positivity : (0 : ℝ) < 2 ^ k)]

def Rounds (r : ℝ) (w : Float) : Prop :=
  RoundsTo Rounding.place (placeOf r) w

theorem rounds_mul (hx : Scalar.isFinite x) (hy : Scalar.isFinite y) :
    Rounds (real x * real y) (x * y) :=
  roundsTo_pack (faithful_mul (canonical_unpacked x) (canonical_unpacked y) hx hy)

theorem rounds_div (hx : Scalar.isFinite x) (hy : Scalar.isFinite y) (ne : real y ≠ 0) :
    Rounds (real x / real y) (x / y) :=
  roundsTo_pack (faithful_div (canonical_unpacked x) (canonical_unpacked y) hx hy ne)

theorem rounds_sqrt (hx : Scalar.isFinite x) (nonneg : 0 ≤ real x) :
    Rounds √(real x) (Elementary.sqrt x) :=
  roundsTo_pack (faithful_sqrt (canonical_unpacked x) hx nonneg)

theorem rounds_add (hx : Scalar.isFinite x) (hy : Scalar.isFinite y) :
    Rounds (real x + real y) (x + y) := by
  have rounds := Rounding.add (Rounding.isNumber_of_isFinite hx) (Rounding.isNumber_of_isFinite hy)
    (.inl hx)
  rw [place_eq hx, place_eq hy, ← placeOf_add] at rounds
  exact rounds

namespace Rounds

variable (h : Rounds r w)
include h

theorem le_of_le (finite : Scalar.isFinite x) (le : real x ≤ r) : x ≤ w :=
  (h x (Rounding.isNumber_of_isFinite finite)).left (place_eq finite ▸ placeOf_le_iff.mpr le)

theorem ge_of_ge (finite : Scalar.isFinite x) (le : r ≤ real x) : w ≤ x :=
  (h x (Rounding.isNumber_of_isFinite finite)).right (place_eq finite ▸ placeOf_le_iff.mpr le)

theorem real_le (finite : Scalar.isFinite w) (range : -1022 ≤ k ∧ k ≤ 1023) (le : r ≤ 2 ^ k) :
    real w ≤ 2 ^ k := by
  rw [← real_twoPow range] at le ⊢
  exact real_le_of_le finite (isFinite_twoPow range) (h.ge_of_ge (isFinite_twoPow range) le)

theorem le_real (finite : Scalar.isFinite w) (range : -1022 ≤ k ∧ k ≤ 1023) (le : 2 ^ k ≤ r) :
    2 ^ k ≤ real w := by
  rw [← real_twoPow range] at le ⊢
  exact real_le_of_le (isFinite_twoPow range) finite (h.le_of_le (isFinite_twoPow range) le)

theorem nonneg (le : 0 ≤ r) : 0 ≤ w :=
  h.le_of_le (x := 0) (by decide +kernel) le

theorem isFinite (small : |r| ≤ 2 ^ (1023 : Int)) : Scalar.isFinite w := by
  have range : (-1022 : Int) ≤ 1023 ∧ (1023 : Int) ≤ 1023 := by simp
  rw [← real_twoPow range, abs_le, ← real_neg] at small
  have large := isFinite_twoPow range
  exact Rounding.isFinite_of_le_of_le (isFinite_opposite large) large
    (h.le_of_le (isFinite_opposite large) small.left) (h.ge_of_ge large small.right)

theorem within (range : -1022 ≤ k ∧ k ≤ 1023) (nonneg : 0 ≤ r) (le : r ≤ 2 ^ k) :
    Scalar.isFinite w ∧ real w ≤ 2 ^ k := by
  have finite := h.isFinite <|
    calc |r|
      _ = r                := abs_of_nonneg nonneg
      _ ≤ 2 ^ k            := le
      _ ≤ 2 ^ (1023 : Int) := zpow_le_zpow_right₀ one_le_two range.right
  exact ⟨finite, h.real_le finite range le⟩

-- Rounding does not reach zero from beyond a power of two.
theorem real_ne_zero (finite : Scalar.isFinite w) (range : -1022 ≤ k ∧ k ≤ 1023)
    (le : 2 ^ k ≤ |r|) : real w ≠ 0 := by
  have pos : (0 : ℝ) < 2 ^ k := by positivity
  rcases le_abs.mp le with above | below
  case inl => exact (pos.trans_le (h.le_real finite range above)).ne'
  case inr =>
    rw [← real_twoPow range] at below pos
    have power := isFinite_twoPow range
    have le := real_le_of_le finite (isFinite_opposite power)
      (h.ge_of_ge (isFinite_opposite power) (real_neg _ ▸ le_neg_of_le_neg below))
    rw [real_neg] at le
    exact (le.trans_lt (neg_neg_of_pos pos)).ne

end Rounds

theorem value_ne_zero {s : Sign} {m : Nat} {e : Int} {pos : 0 < m} :
    value (.finite s m e pos) ≠ 0 := by
  have size : 0 < scaled m e := mul_pos (Nat.cast_pos.mpr pos) (by positivity)
  have sign : factor s ≠ 0 := abs_pos.mp (abs_factor s ▸ one_pos)
  exact mul_ne_zero sign size.ne'

theorem bne_zero_iff (h : Scalar.isFinite x) : (x != 0) ↔ real x ≠ 0 := by
  change (!(unpacked x).beq (.zero .positive)) ↔ value (unpacked x) ≠ 0
  change (unpacked x).isFinite at h
  revert h
  rcases unpacked x with _ | _ | _ | ⟨s, m, e, pos⟩
  case zero   => exact fun _ => iff_of_false nofun (not_not.mpr rfl)
  case finite => exact fun _ => iff_of_true (by cases s <;> rfl) value_ne_zero
  all_goals nofun

theorem finite_or_infinity (h : 0 ≤ x) :
    Scalar.isFinite x ∨ unpacked x = .infinity .positive := by
  have ⟨⟨_, number⟩, le⟩ := float_le_iff.mp h
  change (unpacked x).isFinite ∨ _
  revert number le
  rcases unpacked x with (_ | _) | _ | _ | _
  case infinity.negative => exact fun _ le => absurd le (EReal.bot_lt_coe 0).not_ge
  case infinity.positive => exact fun _ _ => .inr rfl
  case notANumber        => nofun
  all_goals exact fun _ _ => .inl rfl

theorem nonneg_of_infinity (h : unpacked x = .infinity .positive) : 0 ≤ x :=
  float_le_iff.mpr ⟨⟨rfl, h ▸ rfl⟩, h ▸ le_top⟩

theorem not_isFinite_of_infinity (h : unpacked x = .infinity .positive) : ¬ Scalar.isFinite x := by
  change ¬ (unpacked x).isFinite
  rw [h]
  nofun

theorem real_nonneg (h : 0 ≤ x) : 0 ≤ real x := by
  obtain finite | infinite := finite_or_infinity h
  case inl => exact real_le_of_le (x := 0) (by decide +kernel) finite h
  case inr => rw [real, infinite]; rfl

theorem add_infinity (h : unpacked x = .infinity .positive ∨ unpacked y = .infinity .positive)
    (hx : 0 ≤ x) (hy : 0 ≤ y) : unpacked (x + y) = .infinity .positive := by
  have infinity {u : UnpackedFloat} (h : 0 ≤ place u) (number : u.isNaN = false) :
      UnpackedFloat.add .binary64 (.infinity .positive) u = .infinity .positive ∧
      UnpackedFloat.add .binary64 u (.infinity .positive) = .infinity .positive := by
    rcases u with (_ | _) | _ | _ | _
    case infinity.negative => exact absurd h (EReal.bot_lt_coe 0).not_ge
    case notANumber        => cases number
    all_goals exact ⟨rfl, rfl⟩
  have ⟨⟨_, nx⟩, px⟩ := float_le_iff.mp hx
  have ⟨⟨_, ny⟩, py⟩ := float_le_iff.mp hy
  have sum : UnpackedFloat.add .binary64 (unpacked x) (unpacked y) = .infinity .positive := by
    rcases h with eq | eq
    case inl => rw [eq, (infinity py ny).left]
    case inr => rw [eq, (infinity px nx).right]
  exact unpacked_pack_canonical sum trivial

theorem nonneg_add (hx : 0 ≤ x) (hy : 0 ≤ y) : 0 ≤ x + y ∧ (Scalar.isFinite (x + y) →
    (Scalar.isFinite x ∧ real x ≤ real (x + y)) ∧ Scalar.isFinite y ∧ real y ≤ real (x + y)) := by
  by_cases infinite : unpacked x = .infinity .positive ∨ unpacked y = .infinity .positive
  case pos =>
    have sum := add_infinity infinite hx hy
    exact ⟨nonneg_of_infinity sum, fun finite => absurd finite (not_isFinite_of_infinity sum)⟩
  case neg =>
    rw [not_or] at infinite
    have fx := (finite_or_infinity hx).resolve_right infinite.left
    have fy := (finite_or_infinity hy).resolve_right infinite.right
    have rounds := rounds_add fx fy
    have px := real_nonneg hx
    have py := real_nonneg hy
    exact ⟨rounds.nonneg (add_nonneg px py), fun finite =>
      ⟨⟨fx, real_le_of_le fx finite (rounds.le_of_le fx (le_add_of_nonneg_right py))⟩,
        fy, real_le_of_le fy finite (rounds.le_of_le fy (le_add_of_nonneg_left px))⟩⟩

theorem add_within (range : -1022 ≤ k + 1 ∧ k + 1 ≤ 1023) (hx : 0 ≤ x) (hy : 0 ≤ y)
    (small : Scalar.isFinite x ∧ real x ≤ 2 ^ k) (small' : Scalar.isFinite y ∧ real y ≤ 2 ^ k) :
    Scalar.isFinite (x + y) ∧ real (x + y) ≤ 2 ^ (k + 1) := by
  refine (rounds_add small.left small'.left).within range
    (add_nonneg (real_nonneg hx) (real_nonneg hy)) ?_
  rw [zpow_add_one₀ two_ne_zero, mul_two]
  exact add_le_add small.right small'.right

theorem nonneg_sqrt (h : 0 ≤ x) :
    0 ≤ Elementary.sqrt x ∧ (Scalar.isFinite (Elementary.sqrt x) → Scalar.isFinite x) := by
  obtain finite | infinite := finite_or_infinity h
  case inl =>
    exact ⟨(rounds_sqrt finite (real_nonneg h)).nonneg (Real.sqrt_nonneg _), fun _ => finite⟩
  case inr =>
    have root : unpacked (Elementary.sqrt x) = .infinity .positive :=
      unpacked_pack_canonical (congrArg (UnpackedFloat.sqrt .binary64) infinite) trivial
    exact ⟨nonneg_of_infinity root, fun finite => absurd finite (not_isFinite_of_infinity root)⟩

theorem div_infinity (hx : Scalar.isFinite x) (hy : unpacked y = .infinity .positive) :
    Scalar.isFinite (x / y) ∧ real (x / y) = 0 := by
  change (unpacked x).isFinite at hx
  obtain ⟨s, zero⟩ : ∃ s, UnpackedFloat.div .binary64 (unpacked x) (unpacked y) = .zero s := by
    rw [hy]
    revert hx
    cases unpacked x
    case zero | finite => exact fun _ => ⟨_, rfl⟩
    all_goals nofun
  have quotient : unpacked (x / y) = .zero s := unpacked_pack_canonical zero trivial
  change (unpacked (x / y)).isFinite ∧ value (unpacked (x / y)) = 0
  rw [quotient]
  exact ⟨rfl, rfl⟩

end PointForce.Binary64
