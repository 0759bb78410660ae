import PointForce.Proofs.Arithmetic.Rounding
import PointForce.Proofs.Arithmetic.Sum

-- Binary64 is an arithmetic that rounds.

namespace PointForce

namespace Binary64

open Float.Model Float.Model.UnpackedFloat

variable {x y : Float}

abbrev unpacked (x : Float) : UnpackedFloat :=
  x.toModel.unpack

theorem canonical_unpacked (x : Float) : Canonical (unpacked x) :=
  canonical_unpack _

theorem unpacked_pack {u : UnpackedFloat} (h : Rounded u) :
    unpacked (.ofModel (Float.Model.pack u)) = overflow u :=
  unpack_pack h

theorem unpacked_pack_canonical {u w : UnpackedFloat} (eq : u = w) (h : Canonical w) :
    unpacked (.ofModel (Float.Model.pack u)) = w :=
  eq ▸ (unpacked_pack h.rounded).trans h.overflow_eq

theorem unpacked_abs (x : Float) : unpacked (Scalar.abs x) = (unpacked x).abs :=
  unpacked_pack_canonical rfl (canonical_unpacked x).abs

theorem unpacked_neg (x : Float) : unpacked (-x) = (unpacked x).neg :=
  unpacked_pack_canonical rfl (canonical_unpacked x).neg

theorem float_le_iff : x ≤ y ↔
    ((unpacked x).isNaN = false ∧ (unpacked y).isNaN = false) ∧
      place (unpacked x) ≤ place (unpacked y) :=
  decide_eq_true_iff.trans (le_iff (canonical_unpacked x).rounded (canonical_unpacked y).rounded)

theorem float_lt_iff : x < y ↔
    ((unpacked x).isNaN = false ∧ (unpacked y).isNaN = false) ∧
      place (unpacked x) < place (unpacked y) :=
  decide_eq_true_iff.trans (lt_iff (canonical_unpacked x).rounded (canonical_unpacked y).rounded)

theorem isNumber_iff : IsNumber x ↔ (unpacked x).isNaN = false := by
  simp [IsNumber, float_le_iff]

theorem roundsTo_pack {p : EReal} {u : UnpackedFloat}
    (h : Rounded u ∧ Faithful p (overflow u)) :
    RoundsTo (fun z => place (unpacked z)) p (.ofModel (Float.Model.pack u)) := by
  intro z hz
  rw [isNumber_iff] at hz
  have ⟨number, nearest⟩ := h.right
  have ⟨le, ge⟩ := nearest _ (canonical_unpacked z) hz
  rw [← unpacked_pack h.left] at number le ge
  rw [float_le_iff, float_le_iff]
  exact ⟨fun h' => ⟨⟨hz, number⟩, le h'⟩, fun h' => ⟨⟨number, hz⟩, ge h'⟩⟩

end Binary64

open Binary64

noncomputable instance binary64Rounding : Rounding Float where
  place x            := place (unpacked x)
  le_iff             := by
    intro x y
    rw [isNumber_iff, isNumber_iff, float_le_iff]
  lt_iff             := by
    intro x y
    rw [isNumber_iff, isNumber_iff, float_lt_iff]
  isFinite_iff {x}   := by
    rw [isNumber_iff]
    exact Binary64.isFinite_iff
  isNumber_zero      := by decide +kernel
  place_zero         := rfl
  isNumber_abs {x} h := by
    rw [isNumber_iff] at h ⊢
    rw [unpacked_abs, isNaN_abs, h]
  place_abs {x} _    := by
    rw [unpacked_abs, Binary64.place_abs]
  exists_neg {x} h   := by
    rw [isNumber_iff] at h
    refine ⟨-x, ?_, ?_⟩
    · rw [isNumber_iff, unpacked_neg, isNaN_neg, h]
    · rw [unpacked_neg, place_neg]
  add {x y} hx hy finite := by
    rw [isNumber_iff] at hx hy
    exact roundsTo_pack (faithful_add (canonical_unpacked x) (canonical_unpacked y) hx hy finite)
  sub {x y} hx hy finite := by
    rw [isNumber_iff] at hx hy
    exact roundsTo_pack (faithful_sub (canonical_unpacked x) (canonical_unpacked y) hx hy finite)

end PointForce
