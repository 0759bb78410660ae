import Mathlib.Data.EReal.Operations
import PointForce.Proofs.Exact

-- Arithmetic that rounds. All that the limits need of it is that rounding is monotone and leaves
-- representable values as they are.

namespace PointForce

section

variable {α : Type} [Scalar α]

def IsNumber (x : α) : Prop :=
  x ≤ x

instance (x : α) : Decidable (IsNumber x) :=
  inferInstanceAs (Decidable (x ≤ x))

def RoundsTo (place : α → EReal) (p : EReal) (rounded : α) : Prop :=
  ∀ z : α, IsNumber z → (place z ≤ p → z ≤ rounded) ∧ (p ≤ place z → rounded ≤ z)

end

-- Zero, sizes and opposites are exact. Sums and differences are rounded, unless both sides are
-- infinite.
class Rounding (α : Type) [Scalar α] where
  place         : α → EReal
  le_iff        : ∀ {x y : α}, x ≤ y ↔ (IsNumber x ∧ IsNumber y) ∧ place x ≤ place y
  lt_iff        : ∀ {x y : α}, x < y ↔ (IsNumber x ∧ IsNumber y) ∧ place x < place y
  isFinite_iff  : ∀ {x : α}, Scalar.isFinite x ↔ IsNumber x ∧ place x ≠ ⊥ ∧ place x ≠ ⊤
  isNumber_zero : IsNumber (0 : α)
  place_zero    : place 0 = 0
  isNumber_abs  : ∀ {x : α}, IsNumber x → IsNumber (Scalar.abs x)
  place_abs     : ∀ {x : α}, IsNumber x → place (Scalar.abs x) = max (place x) (-place x)
  exists_neg    : ∀ {x : α}, IsNumber x → ∃ y : α, IsNumber y ∧ place y = -place x
  add           : ∀ {x y : α}, IsNumber x → IsNumber y → Scalar.isFinite x ∨ Scalar.isFinite y →
    RoundsTo place (place x + place y) (x + y)
  sub           : ∀ {x y : α}, IsNumber x → IsNumber y → Scalar.isFinite x ∨ Scalar.isFinite y →
    RoundsTo place (place x - place y) (x - y)

namespace Rounding

variable {α : Type} [Scalar α] [Rounding α] {x y z : α}

theorem isNumber_of_isFinite (h : Scalar.isFinite x) : IsNumber x :=
  (isFinite_iff.mp h).left

theorem le_of_place_le (hx : IsNumber x) (hy : IsNumber y) (h : place x ≤ place y) : x ≤ y :=
  le_iff.mpr ⟨⟨hx, hy⟩, h⟩

protected theorem le_trans (h : x ≤ y) (h' : y ≤ z) : x ≤ z := by
  have ⟨⟨hx, _⟩, le⟩  := le_iff.mp h
  have ⟨⟨_, hz⟩, le'⟩ := le_iff.mp h'
  exact le_of_place_le hx hz (le.trans le')

theorem isFinite_of_le_of_le (hx : Scalar.isFinite x) (hz : Scalar.isFinite z) (h : x ≤ y)
    (h' : y ≤ z) : Scalar.isFinite y := by
  have ⟨_, above, _⟩  := isFinite_iff.mp hx
  have ⟨_, _, below⟩  := isFinite_iff.mp hz
  have ⟨⟨_, hy⟩, le⟩  := le_iff.mp h
  have ⟨_, le'⟩       := le_iff.mp h'
  exact isFinite_iff.mpr
    ⟨hy, ((bot_lt_iff_ne_bot.mpr above).trans_le le).ne',
      (le'.trans_lt (lt_top_iff_ne_top.mpr below)).ne⟩

theorem le_of_not_lt (hx : IsNumber x) (hy : IsNumber y) (h : ¬ x < y) : y ≤ x := by
  refine le_of_place_le hy hx (not_lt.mp fun lt => h ?_)
  exact lt_iff.mpr ⟨⟨hx, hy⟩, lt⟩

end Rounding

noncomputable instance exactRounding : Rounding ℚ where
  place x          := ((x : ℝ) : EReal)
  le_iff           := by simp [IsNumber]
  lt_iff           := by simp [IsNumber]
  isFinite_iff     := by simp [IsNumber, Scalar.isFinite]
  isNumber_zero    := le_refl _
  place_zero       := by simp
  isNumber_abs _   := le_refl _
  place_abs {x} _  := by
    have size : ((|x| : ℚ) : ℝ) = max (x : ℝ) (-x) := Rat.cast_abs x
    exact (congrArg Real.toEReal size).trans EReal.coe_strictMono.monotone.map_max
  exists_neg {x} _ := ⟨-x, le_refl _, by simp⟩
  add _ _ _ _ _    := by simp [← EReal.coe_add, ← Rat.cast_add]
  sub _ _ _ _ _    := by simp [← EReal.coe_sub, ← Rat.cast_sub]

end PointForce
