import PointForce.Proofs.Arithmetic.Order

-- Rounded values, sums and differences in binary64. Rounding does not get past any value, also not
-- where it ends in an infinity.

namespace PointForce.Binary64

open Float.Model Float.Model.UnpackedFloat

variable {u v : UnpackedFloat} {m : Nat} {e : Int} {p : EReal}

theorem natAbs_units (s : Sign) (m : Nat) (e : Int) : (units s m e).natAbs = magnitude m e := by
  cases s
  case positive => rfl
  case negative => exact Int.natAbs_neg _

theorem place_cases (h : Canonical u) (number : u.isNaN = false) :
    place u = ⊥ ∨ place u = ⊤ ∨
      ∃ n : Int, place u = ((n : ℝ) : EReal) ∧ OnGrid n.natAbs ∧ n.natAbs < beyond := by
  rcases u with (_ | _) | _ | _ | ⟨s, m, e, _⟩
  case infinity.negative => exact .inl rfl
  case infinity.positive => exact .inr (.inl rfl)
  case notANumber        => cases number
  case zero              =>
    have positive : 0 < beyond := magnitude_pos (Nat.two_pow_pos 52) 972
    exact .inr (.inr ⟨0, by simp [place], ⟨0, 0, by simp, rfl⟩, positive⟩)
  case finite            =>
    refine .inr (.inr ⟨units s m e, rfl, ?_, ?_⟩) <;> rw [natAbs_units]
    · exact h.left.onGrid
    · exact magnitude_lt h.left normal_beyond (Int.lt_add_one_of_le h.right)

def Faithful (p : EReal) (u : UnpackedFloat) : Prop :=
  u.isNaN = false ∧ ∀ z, Canonical z → z.isNaN = false →
    (place z ≤ p → place z ≤ place u) ∧ (p ≤ place z → place u ≤ place z)

theorem Faithful.of_eq (number : u.isNaN = false) (eq : p = place u) : Faithful p u :=
  ⟨number, fun _ _ _ => ⟨fun le => eq ▸ le, fun ge => eq ▸ ge⟩⟩

theorem Faithful.neg (h : Faithful p u) : Faithful (-p) u.neg := by
  refine ⟨(isNaN_neg u).trans h.left, fun z canonical number => ?_⟩
  have ⟨le, ge⟩ := h.right z.neg canonical.neg ((isNaN_neg z).trans number)
  rw [place_neg] at le ge ⊢
  exact ⟨EReal.le_neg_of_le_neg ∘ ge ∘ EReal.le_neg_of_le_neg,
    EReal.neg_le_of_neg_le ∘ le ∘ EReal.neg_le_of_neg_le⟩

theorem overflow_neg (u : UnpackedFloat) : overflow u.neg = (overflow u).neg := by
  cases u
  case finite s m e pos =>
    by_cases within : e ≤ 971
    case pos => simp only [overflow, UnpackedFloat.neg, if_pos within]
    case neg => simp only [overflow, UnpackedFloat.neg, if_neg within]
  all_goals rfl

theorem Next.of_int {v : ℝ} {w : Nat} (h : Next v w) (nonneg : 0 ≤ v) {n : Int}
    (grid : OnGrid n.natAbs) : ((n : ℝ) ≤ v → n ≤ w) ∧ (v ≤ n → w ≤ n) := by
  by_cases neg : n < 0
  case pos =>
    have below : (n : ℝ) < 0 := by exact_mod_cast neg
    exact ⟨fun _ => by omega, fun le => absurd (nonneg.trans le) below.not_ge⟩
  case neg =>
    obtain ⟨n, rfl⟩ := Int.eq_ofNat_of_zero_le (not_lt.mp neg)
    exact_mod_cast h n grid

theorem faithful_of_next {v : ℝ} {w : UnpackedFloat} {r : Nat} (number : w.isNaN = false)
    (eq : place w = ((r : ℝ) : EReal)) (nonneg : 0 ≤ v) (next : Next v r) :
    Faithful ((v : ℝ) : EReal) w := by
  refine ⟨number, fun z canonical number => ?_⟩
  rw [eq]
  obtain eq | eq | ⟨n, eq, grid, _⟩ := place_cases canonical number
  case inl     =>
    exact ⟨fun _ => eq ▸ bot_le, fun ge => absurd (eq ▸ ge) (EReal.bot_lt_coe _).not_ge⟩
  case inr.inl =>
    exact ⟨fun le => absurd (eq ▸ le) (EReal.coe_lt_top _).not_ge, fun _ => eq ▸ le_top⟩
  case inr.inr =>
    rw [eq]
    exact_mod_cast next.of_int nonneg grid

theorem faithful_overflow {pos : 0 < m} {v : ℝ} (nonneg : 0 ≤ v) (normal : Normal m e)
    (next : Next v (magnitude m e)) :
    Faithful ((v : ℝ) : EReal) (overflow (.finite .positive m e pos)) := by
  rw [overflow]
  split
  case isTrue => exact faithful_of_next rfl place_positive nonneg next
  case isFalse large =>
    refine ⟨rfl, fun z canonical number => ⟨fun _ => le_top, fun ge => ?_⟩⟩
    obtain eq | eq | ⟨n, eq, grid, small⟩ := place_cases canonical number
    case inl     => exact absurd (eq ▸ ge) (EReal.bot_lt_coe _).not_ge
    case inr.inl => exact eq ▸ le_top
    case inr.inr =>
      have ge : v ≤ n := by
        rw [eq] at ge
        exact_mod_cast ge
      have := next.of_int nonneg grid |>.right ge
      have := beyond_le_magnitude normal large
      omega

def factor (s : Sign) : ℝ :=
  s.apply 1

theorem factor_positive : factor .positive = 1 :=
  Int.cast_one

theorem factor_negative : factor .negative = -1 :=
  (Int.cast_neg 1).trans (congrArg Neg.neg Int.cast_one)

theorem cast_apply (s : Sign) (n : Int) : ((s.apply n : Int) : ℝ) = factor s * n := by
  cases s
  case positive => rw [factor_positive, one_mul]; rfl
  case negative => rw [factor_negative, neg_one_mul]; exact Int.cast_neg n

theorem cast_units (s : Sign) (m : Nat) {e : Int} (least : -1074 ≤ e) :
    (units s m e : ℝ) = factor s * size m e := by
  rw [units, cast_apply, size_natCast m least, Int.cast_natCast]

theorem faithful_roundWithAccuracy (s : Sign) {accuracy : Accuracy} {x : ℝ}
    (holds : Holds (extended m accuracy) x) (above : e ≤ target m e) :
    Rounded (roundWithAccuracy .binary64 s m e accuracy) ∧
    Faithful ((factor s * size x e : ℝ) : EReal)
      (overflow (roundWithAccuracy .binary64 s m e accuracy)) := by
  have nonneg : 0 ≤ size x e :=
    mul_nonneg ((Nat.cast_nonneg _).trans holds.lower) (by positivity)
  obtain ⟨r, t, normal, next, eq⟩ := roundWithAccuracy_eq holds above
  have positive : Rounded (roundWithAccuracy .binary64 .positive m e accuracy) ∧
      Faithful ((size x e : ℝ) : EReal)
        (overflow (roundWithAccuracy .binary64 .positive m e accuracy)) := by
    rw [eq]
    split
    case isTrue zero =>
      refine ⟨trivial, faithful_of_next rfl ?_ nonneg next⟩
      simp [zero, magnitude, overflow, place]
    case isFalse ne =>
      have normal := normal (Nat.pos_of_ne_zero ne)
      exact ⟨normal, faithful_overflow nonneg normal next⟩
  cases s
  case positive => rwa [factor_positive, one_mul]
  case negative =>
    have opposite : roundWithAccuracy .binary64 .negative m e accuracy =
        (roundWithAccuracy .binary64 .positive m e accuracy).neg := by
      rw [eq, eq]
      split <;> rfl
    rw [opposite, overflow_neg, factor_negative, neg_one_mul, EReal.coe_neg]
    exact ⟨positive.left.neg, positive.right.neg⟩

-- A mantissa with few bits is first given more of them, without loss.
theorem faithful_round (s : Sign) (pos : 0 < m) :
    Rounded (UnpackedFloat.round .binary64 s m e) ∧
    Faithful ((factor s * size m e : ℝ) : EReal)
      (overflow (UnpackedFloat.round .binary64 s m e)) := by
  obtain ⟨d, hd⟩ : ∃ d, (e - target m e).toNat = d := ⟨_, rfl⟩
  have bounds := target_eq m e
  have same : target (m * 2 ^ d) (e - d) = target m e := by
    rw [target_eq, target_eq, log2_mul_two_pow pos]
    omega
  have given : size m e = size (m * 2 ^ d : Nat) (e - d) := by
    rw [Nat.cast_mul, Nat.cast_pow, Nat.cast_two, size_mul_two_pow, sub_add_cancel]
  simp only [UnpackedFloat.round, decreaseExponent_eq hd, given]
  exact faithful_roundWithAccuracy s (holds_exact _) (by omega)

theorem faithful_normalize (n : Int) (e : Int) :
    Rounded (UnpackedFloat.normalize .binary64 n e .positive) ∧
    Faithful ((size n e : ℝ) : EReal)
      (overflow (UnpackedFloat.normalize .binary64 n e .positive)) := by
  rw [UnpackedFloat.normalize]
  obtain neg | rfl | pos := lt_trichotomy n 0
  case inl =>
    obtain ⟨m, rfl⟩ : ∃ m : Nat, n = -m := ⟨(-n).toNat, by omega⟩
    have given : size ((-m : Int) : ℝ) e = factor .negative * size m e := by
      rw [factor_negative, ← size_mul, Int.cast_neg, Int.cast_natCast, neg_one_mul]
    rw [compare_lt_iff_lt.mpr neg, given]
    simpa using faithful_round (e := e) .negative (m := m) (by omega)
  case inr.inl =>
    have given : size ((0 : Int) : ℝ) e = 0 := by
      rw [Int.cast_zero, ← zero_mul 0, size_mul, zero_mul, zero_mul]
    rw [given]
    exact ⟨trivial, .of_eq rfl rfl⟩
  case inr.inr =>
    obtain ⟨m, rfl⟩ : ∃ m : Nat, n = m := ⟨n.toNat, by omega⟩
    have given : size ((m : Int) : ℝ) e = factor .positive * size m e := by
      rw [factor_positive, one_mul, Int.cast_natCast]
    rw [compare_gt_iff_gt.mpr pos, given]
    simpa using faithful_round (e := e) .positive (m := m) (by omega)

theorem size_decreaseExponent (s : Sign) (m : Nat) {e t : Int} (least : -1074 ≤ e) (le : t ≤ e) :
    size (s.apply (decreaseExponent m e t).1 : Int) t = units s m e := by
  obtain ⟨d, hd⟩ : ∃ d : Nat, e - t = d := ⟨(e - t).toNat, by omega⟩
  obtain rfl : t = e - d := by omega
  rw [decreaseExponent_eq (d := d) (by omega), cast_units s m least, cast_apply, size_mul,
    Int.cast_natCast, Nat.cast_mul, Nat.cast_pow, Nat.cast_two, size_mul_two_pow, sub_add_cancel]

theorem faithful_add_finite (s s' : Sign) {m m' : Nat} {e e' : Int} (pos : 0 < m) (pos' : 0 < m')
    (least : -1074 ≤ e) (least' : -1074 ≤ e') :
    let sum := UnpackedFloat.add .binary64 (.finite s m e pos) (.finite s' m' e' pos')
    Rounded sum ∧ Faithful ((units s m e + units s' m' e' : ℝ) : EReal) (overflow sum) := by
  rw [← size_decreaseExponent s m least (min_le_left e e'),
    ← size_decreaseExponent s' m' least' (min_le_right e e'), ← size_add, ← Int.cast_add]
  exact faithful_normalize _ _

theorem faithful_of_exact {w : UnpackedFloat} (canonical : Canonical w) (number : w.isNaN = false)
    (eq : p = place w) : Rounded w ∧ Faithful p (overflow w) :=
  ⟨canonical.rounded, canonical.overflow_eq.symm ▸ .of_eq number eq⟩

-- Only the sum of two finite values is rounded. Infinities absorb them, and zeros add nothing.
theorem faithful_add (hu : Canonical u) (hv : Canonical v) (nu : u.isNaN = false)
    (nv : v.isNaN = false) (finite : u.isFinite ∨ v.isFinite) :
    Rounded (UnpackedFloat.add .binary64 u v) ∧
    Faithful (place u + place v) (overflow (UnpackedFloat.add .binary64 u v)) := by
  cases u <;> cases v
  case finite.finite =>
    rw [place, place, ← EReal.coe_add]
    exact faithful_add_finite _ _ _ _ hu.left.least hv.left.least
  case zero.zero =>
    rw [UnpackedFloat.add]
    split <;> exact faithful_of_exact trivial rfl (zero_add _)
  case zero.finite | zero.infinity => exact faithful_of_exact hv rfl (zero_add _)
  case finite.zero | infinity.zero => exact faithful_of_exact hu rfl (add_zero _)
  case infinity.finite s _ _ _ _   =>
    refine faithful_of_exact (w := .infinity s) trivial rfl ?_
    cases s
    case positive => exact EReal.top_add_coe _
    case negative => exact EReal.bot_add _
  case finite.infinity s =>
    refine faithful_of_exact (w := .infinity s) trivial rfl ?_
    cases s
    case positive => exact EReal.coe_add_top _
    case negative => exact EReal.add_bot _
  case infinity.infinity => exact absurd finite (by simp [UnpackedFloat.isFinite])
  all_goals first | cases nu; done | cases nv

theorem sub_eq_add (u v : UnpackedFloat) :
    UnpackedFloat.sub .binary64 u v = UnpackedFloat.add .binary64 u v.neg := by
  cases u <;> cases v
  case finite.finite =>
    simp only [UnpackedFloat.sub, UnpackedFloat.add, UnpackedFloat.neg, apply_neg,
      Int.sub_eq_add_neg]
  all_goals rfl

theorem faithful_sub (hu : Canonical u) (hv : Canonical v) (nu : u.isNaN = false)
    (nv : v.isNaN = false) (finite : u.isFinite ∨ v.isFinite) :
    Rounded (UnpackedFloat.sub .binary64 u v) ∧
    Faithful (place u - place v) (overflow (UnpackedFloat.sub .binary64 u v)) := by
  rw [sub_eq_add, sub_eq_add_neg, ← place_neg]
  exact faithful_add hu hv.neg nu ((isNaN_neg v).trans nv) (isFinite_neg v ▸ finite)

end PointForce.Binary64
