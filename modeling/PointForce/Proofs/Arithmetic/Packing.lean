import PointForce.Proofs.Arithmetic.Grid

-- Packing into 64 bits loses nothing of a rounded value but what is too large.

namespace PointForce.Binary64

open Float.Model Float.Model.UnpackedFloat

def Canonical : UnpackedFloat → Prop
  | .finite _ m e _ => Normal m e ∧ e ≤ 971
  | _               => True

-- The form of a rounded value, which may be larger than all values of binary64.
def Rounded : UnpackedFloat → Prop
  | .finite _ m e _ => Normal m e
  | _               => True

def overflow : UnpackedFloat → UnpackedFloat
  | .finite s m e pos => if e ≤ 971 then .finite s m e pos else .infinity s
  | u                 => u

theorem Rounded.neg {u : UnpackedFloat} (h : Rounded u) : Rounded u.neg := by
  cases u
  case finite => exact h
  all_goals trivial

theorem Canonical.rounded {u : UnpackedFloat} (h : Canonical u) : Rounded u := by
  cases u
  case finite => exact h.left
  all_goals trivial

theorem Canonical.overflow_eq {u : UnpackedFloat} (h : Canonical u) : overflow u = u := by
  cases u
  case finite => exact if_pos h.right
  all_goals rfl

theorem Canonical.neg {u : UnpackedFloat} (h : Canonical u) : Canonical u.neg := by
  cases u
  case finite => exact h
  all_goals trivial

theorem Canonical.abs {u : UnpackedFloat} (h : Canonical u) : Canonical u.abs := by
  cases u
  case finite => exact h
  all_goals trivial

@[simp]
theorem ofBitVec_unpackSign_packComponents (s : Sign) (x : BitVec 11) (m : BitVec 52) :
    Sign.ofBitVec (unpackSign (packComponents .binary64 s x m)) = s := by
  simp only [unpackSign, packComponents, BitVec.extractLsb]
  rw [BitVec.extractLsb'_append_eq_of_le (by omega), BitVec.extractLsb'_append_eq_of_le (by omega)]
  cases s <;> rfl

theorem toNat_implicit (m : BitVec 52) : (1#1 ++ m).toNat = 2 ^ 52 + m.toNat := by
  rw [BitVec.toNat_append, ← Nat.shiftLeft_add_eq_or_of_lt m.isLt]
  rfl

theorem eq_neg_one_iff (x : BitVec 11) : x = -1#11 ↔ x.toNat = 2047 := by
  rw [← BitVec.toNat_inj]
  rfl

theorem canonical_unpack (b : BitVec 64) : Canonical (UnpackedFloat.unpack .binary64 b) := by
  have mantissa : (@unpackMantissa .binary64 b).toNat < 2 ^ 52 := BitVec.isLt _
  have exponent : (@unpackExponent .binary64 b).toNat < 2 ^ 11 := BitVec.isLt _
  have bias : Format.binary64.exponentBias = 1023 := rfl
  simp only [UnpackedFloat.unpack, bias]
  split
  case isTrue => split <;> trivial
  case isFalse infinite =>
    rw [eq_neg_one_iff] at infinite
    split
    case isTrue zero =>
      split
      case isTrue  => trivial
      case isFalse =>
        have zero : (@unpackExponent .binary64 b).toNat = 0 := congrArg BitVec.toNat zero
        exact ⟨⟨by omega, by omega, .inr (by omega)⟩, by omega⟩
    case isFalse normal =>
      have normal : (@unpackExponent .binary64 b).toNat ≠ 0 := fun eq =>
        normal (BitVec.eq_of_toNat_eq eq)
      have implicit := toNat_implicit (@unpackMantissa .binary64 b)
      exact ⟨⟨by omega, by omega, .inl (by omega)⟩, by omega⟩

theorem unpack_of_normal {s : Sign} {x : BitVec 11} {m : BitVec 52} (few : x.toNat ≠ 2047)
    (ne : x.toNat ≠ 0) (pos : 0 < (1#1 ++ m).toNat) :
    UnpackedFloat.unpack .binary64 (packComponents .binary64 s x m) =
      .finite s (1#1 ++ m).toNat (x.toNat - 1075) pos := by
  have finite : ¬ x = -1#11 := mt (eq_neg_one_iff x).mp few
  have normal : ¬ x = 0#11  := fun eq => ne (congrArg BitVec.toNat eq)
  simp only [UnpackedFloat.unpack, unpackMantissa_packComponents, unpackExponent_packComponents,
    ofBitVec_unpackSign_packComponents, if_neg finite, if_neg normal]
  rfl

theorem unpack_of_subnormal {s : Sign} {m : BitVec 52} (pos : 0 < m.toNat) :
    UnpackedFloat.unpack .binary64 (packComponents .binary64 s 0#11 m) =
      .finite s m.toNat (-1074) pos := by
  have finite : ¬ 0#11 = -1#11 := by decide
  have ne : ¬ m = 0#52 := fun eq => pos.ne' (congrArg BitVec.toNat eq)
  simp only [UnpackedFloat.unpack, unpackMantissa_packComponents, unpackExponent_packComponents,
    ofBitVec_unpackSign_packComponents, if_neg finite, if_pos trivial, dif_neg ne]
  rfl

theorem pack_finite {s : Sign} {m x : Nat} {e : Int} (h : e = x - 1075) (pos : 0 < m) :
    UnpackedFloat.pack .binary64 (.finite s m e pos) =
      if 2 ^ 11 ≤ x + 1 then packedInfinity .binary64 s
      else if m.log2 + 1 = 53 then packComponents .binary64 s (.ofNat 11 x) (.ofNat 52 m)
      else packComponents .binary64 s 0#11 (.ofNat 52 m) := by
  have biased : (e + Format.binary64.exponentBias + (52 : Nat)).toNat = x := by
    have bias : Format.binary64.exponentBias = 1023 := rfl
    omega
  simp only [UnpackedFloat.pack, biased]
  rfl

theorem unpack_pack_finite {s : Sign} {m : Nat} {e : Int} {pos : 0 < m} (h : Normal m e) :
    UnpackedFloat.unpack .binary64 (UnpackedFloat.pack .binary64 (.finite s m e pos)) =
      overflow (.finite s m e pos) := by
  obtain ⟨bits, least, full⟩ := h
  obtain ⟨x, hx⟩ : ∃ x : Nat, e = x - 1075 := ⟨(e + 1075).toNat, by omega⟩
  rw [pack_finite hx, overflow]
  by_cases large : 2 ^ 11 ≤ x + 1
  case pos =>
    have beyond : ¬ e ≤ 971 := by omega
    rw [if_pos large, if_neg beyond]
    cases s <;> rfl
  case neg =>
    have within : e ≤ 971 := by omega
    rw [if_neg large, if_pos within]
    have exponent : (BitVec.ofNat 11 x).toNat = x := Nat.mod_eq_of_lt (by omega)
    have below : m.log2 < 53 := (Nat.log2_lt pos.ne').mpr bits
    by_cases normal : 2 ^ 52 ≤ m
    case pos =>
      have above : 52 ≤ m.log2 := (Nat.le_log2 pos.ne').mpr normal
      have mantissa : (1#1 ++ BitVec.ofNat 52 m).toNat = m := by
        rw [toNat_implicit, BitVec.toNat_ofNat]
        omega
      rw [if_pos (show m.log2 + 1 = 53 by omega), unpack_of_normal (by omega) (by omega) (by omega)]
      simp only [mantissa, exponent, hx]
    case neg =>
      have above : m.log2 < 52 := (Nat.log2_lt pos.ne').mpr (by omega)
      have mantissa : (BitVec.ofNat 52 m).toNat = m := Nat.mod_eq_of_lt (by omega)
      rw [if_neg (show ¬ m.log2 + 1 = 53 by omega), unpack_of_subnormal (by omega)]
      simp only [mantissa, full.resolve_left normal]

theorem unpack_pack {u : UnpackedFloat} (h : Rounded u) :
    UnpackedFloat.unpack .binary64 (UnpackedFloat.pack .binary64 u) = overflow u := by
  cases u
  case finite     => exact unpack_pack_finite h
  case notANumber => rfl
  case infinity s => cases s <;> rfl
  case zero s     => cases s <;> rfl

end PointForce.Binary64
