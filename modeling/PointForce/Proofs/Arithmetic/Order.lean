import PointForce.Proofs.Arithmetic.Packing

-- The values of binary64 compare like their places on the extended line. The unit of the line is
-- the smallest positive value, as nothing but sums and differences is compared.

namespace PointForce.Binary64

open Float.Model Float.Model.UnpackedFloat

variable {u v : UnpackedFloat} {s : Sign} {m : Nat} {e : Int}

def units (s : Sign) (m : Nat) (e : Int) : Int :=
  s.apply (magnitude m e)

noncomputable def place : UnpackedFloat → EReal
  | .infinity .positive => ⊤
  | .infinity .negative => ⊥
  | .notANumber         => 0
  | .zero _             => 0
  | .finite s m e _     => ((units s m e : ℝ) : EReal)

theorem apply_neg (s : Sign) (n : Int) : (-s).apply n = -s.apply n := by
  cases s
  case negative => exact (Int.neg_neg n).symm
  case positive => rfl

theorem place_neg : ∀ u : UnpackedFloat, place u.neg = -place u
  | .infinity .positive => EReal.neg_top.symm
  | .infinity .negative => EReal.neg_bot.symm
  | .notANumber         => neg_zero.symm
  | .zero _             => neg_zero.symm
  | .finite s m e _     => by simp [place, UnpackedFloat.neg, units, apply_neg]

theorem isNaN_neg (u : UnpackedFloat) : u.neg.isNaN = u.isNaN := by
  cases u <;> rfl

theorem isFinite_neg (u : UnpackedFloat) : u.neg.isFinite = u.isFinite := by
  cases u <;> rfl

theorem isNaN_abs (u : UnpackedFloat) : u.abs.isNaN = u.isNaN := by
  cases u <;> rfl

theorem place_positive {pos : 0 < m} : place (.finite .positive m e pos) = (magnitude m e : ℝ) :=
  rfl

theorem place_negative {pos : 0 < m} :
    place (.finite .negative m e pos) = -((magnitude m e : ℝ) : EReal) :=
  place_neg (.finite .positive m e pos)

theorem place_positive_pos {pos : 0 < m} : 0 < place (.finite .positive m e pos) := by
  rw [place_positive, EReal.coe_pos, Nat.cast_pos]
  exact magnitude_pos pos e

theorem place_negative_neg {pos : 0 < m} : place (.finite .negative m e pos) < 0 := by
  rw [place_negative, EReal.neg_lt_zero]
  exact @place_positive_pos m e pos

theorem place_abs (u : UnpackedFloat) : place u.abs = max (place u) (-place u) := by
  have nonneg {x : EReal} (h : 0 ≤ x) : x = max x (-x) :=
    (max_eq_left ((EReal.neg_le_zero.mpr h).trans h)).symm
  have nonpos {x : EReal} (h : x ≤ 0) : -x = max x (-x) :=
    (max_eq_right (h.trans (EReal.neg_nonneg.mpr h))).symm
  rcases u with (_ | _) | _ | _ | ⟨_ | _, m, e, pos⟩
  case infinity.negative => exact (place_neg (.infinity .negative)).trans (nonpos bot_le)
  case infinity.positive => exact nonneg le_top
  case notANumber        => exact nonneg le_rfl
  case zero              => exact nonneg le_rfl
  case finite.negative   =>
    exact (place_neg (.finite .negative m e pos)).trans (nonpos place_negative_neg.le)
  case finite.positive   => exact nonneg place_positive_pos.le

theorem compare_strictMono {β γ : Type} [LinearOrder β] [LinearOrder γ] {f : β → γ}
    (h : StrictMono f) (x y : β) : compare (f x) (f y) = compare x y := by
  rw [← cmp_eq_compare, ← cmp_eq_compare, h.cmp_map_eq]

theorem compare_strictAnti {β γ : Type} [LinearOrder β] [LinearOrder γ] {f : β → γ}
    (h : StrictAnti f) (x y : β) : compare (f x) (f y) = (compare x y).swap := by
  rw [← cmp_eq_compare, ← cmp_eq_compare, h.cmp_map_eq, cmp_swap]

theorem compare_magnitude {m' : Nat} {e' : Int} (h : Normal m e) (h' : Normal m' e') :
    compare (magnitude m e) (magnitude m' e') = (compare e e').then (compare m m') := by
  obtain lt | rfl | gt := lt_trichotomy e e'
  case inl =>
    rw [compare_lt_iff_lt.mpr lt, compare_lt_iff_lt.mpr (magnitude_lt h h' lt)]
    rfl
  case inr.inl =>
    rw [compare_eq_iff_eq.mpr rfl]
    exact compare_strictMono (fun _ _ lt => Nat.mul_lt_mul_of_pos_right lt (by simp)) m m'
  case inr.inr =>
    rw [compare_gt_iff_gt.mpr gt, compare_gt_iff_gt.mpr (magnitude_lt h' h gt)]
    rfl

theorem strictMono_place : StrictMono fun n : Nat => ((n : ℝ) : EReal) :=
  EReal.coe_strictMono.comp Nat.strictMono_cast

theorem compare_eq (hu : Rounded u) (hv : Rounded v) (nu : u.isNaN = false) (nv : v.isNaN = false) :
    u.compare v = some (compare (place u) (place v)) := by
  have lt {x y : EReal} (h : x < y) : some Ordering.lt = some (compare x y) := by
    rw [compare_lt_iff_lt.mpr h]
  have gt {x y : EReal} (h : y < x) : some Ordering.gt = some (compare x y) := by
    rw [compare_gt_iff_gt.mpr h]
  have eq {x y : EReal} (h : x = y) : some Ordering.eq = some (compare x y) := by
    rw [compare_eq_iff_eq.mpr h]
  rcases u with (_ | _) | _ | _ | ⟨_ | _, m, e, pos⟩ <;>
    rcases v with (_ | _) | _ | _ | ⟨_ | _, m', e', pos'⟩
  case finite.positive.finite.positive =>
    rw [place_positive, place_positive, compare_strictMono strictMono_place,
      compare_magnitude hu hv]
    rfl
  case finite.negative.finite.negative =>
    rw [place_negative, place_negative, compare_strictAnti EReal.neg_strictAnti,
      compare_strictMono strictMono_place, compare_magnitude hu hv]
    rfl
  case infinity.negative.infinity.negative | infinity.positive.infinity.positive | zero.zero =>
    exact eq rfl
  case infinity.negative.infinity.positive => exact lt bot_lt_top
  case infinity.positive.infinity.negative => exact gt bot_lt_top
  case infinity.negative.zero | infinity.negative.finite.negative |
      infinity.negative.finite.positive =>
    exact lt (EReal.bot_lt_coe _)
  case infinity.positive.zero | infinity.positive.finite.negative |
      infinity.positive.finite.positive =>
    exact gt (EReal.coe_lt_top _)
  case zero.infinity.negative | finite.negative.infinity.negative |
      finite.positive.infinity.negative =>
    exact gt (EReal.bot_lt_coe _)
  case zero.infinity.positive | finite.negative.infinity.positive |
      finite.positive.infinity.positive =>
    exact lt (EReal.coe_lt_top _)
  case zero.finite.negative            => exact gt place_negative_neg
  case zero.finite.positive            => exact lt place_positive_pos
  case finite.negative.zero            => exact lt place_negative_neg
  case finite.positive.zero            => exact gt place_positive_pos
  case finite.negative.finite.positive => exact lt (place_negative_neg.trans place_positive_pos)
  case finite.positive.finite.negative => exact gt (place_negative_neg.trans place_positive_pos)
  all_goals first | cases nu; done | cases nv

theorem compare_of_isNaN (h : ¬ (u.isNaN = false ∧ v.isNaN = false)) : u.compare v = none := by
  cases u <;> cases v <;> first | rfl | exact absurd ⟨rfl, rfl⟩ h

theorem le_iff (hu : Rounded u) (hv : Rounded v) :
    u.le v ↔ (u.isNaN = false ∧ v.isNaN = false) ∧ place u ≤ place v := by
  by_cases numbers : u.isNaN = false ∧ v.isNaN = false
  case pos =>
    rw [UnpackedFloat.le, compare_eq hu hv numbers.left numbers.right, Option.any_some,
      ← Ordering.ne_gt_iff_isLE, and_iff_right numbers]
    exact compare_le_iff_le
  case neg =>
    rw [UnpackedFloat.le, compare_of_isNaN numbers]
    exact iff_of_false nofun fun h => numbers h.left

theorem lt_iff (hu : Rounded u) (hv : Rounded v) :
    u.lt v ↔ (u.isNaN = false ∧ v.isNaN = false) ∧ place u < place v := by
  by_cases numbers : u.isNaN = false ∧ v.isNaN = false
  case pos =>
    rw [UnpackedFloat.lt, compare_eq hu hv numbers.left numbers.right, and_iff_right numbers,
      beq_iff_eq, Option.some.injEq, compare_lt_iff_lt]
  case neg =>
    rw [UnpackedFloat.lt, compare_of_isNaN numbers]
    exact iff_of_false nofun fun h => numbers h.left

theorem isFinite_iff {u : UnpackedFloat} :
    u.isFinite ↔ u.isNaN = false ∧ place u ≠ ⊥ ∧ place u ≠ ⊤ := by
  rcases u with (_ | _) | _ | _ | _ <;>
    simp [UnpackedFloat.isFinite, UnpackedFloat.isNaN, place]

end PointForce.Binary64
