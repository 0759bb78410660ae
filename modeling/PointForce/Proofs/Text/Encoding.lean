import Mathlib.Data.List.Basic
import PointForce.Text.Encoding

namespace PointForce.Text

def encode (cs : List Char) : List UInt8 :=
  cs.flatMap String.utf8EncodeChar

namespace Piece

section Bytes

variable {first : UInt8}

theorem continuation?_two (ge : 0xc2 ≤ first.toNat) (le : first.toNat ≤ 0xdf) :
    continuation? first = some (1, 0x80, 0xbf) :=
  if_pos ⟨UInt8.le_iff_toNat_le.mpr ge, UInt8.le_iff_toNat_le.mpr le⟩

theorem continuation?_three (ge : 0xe0 ≤ first.toNat) (le : first.toNat ≤ 0xef) :
    continuation? first =
      some (2, if first.toNat = 0xe0 then 0xa0 else 0x80,
        if first.toNat = 0xed then 0x9f else 0xbf) := by
  simp only [continuation?, UInt8.le_iff_toNat_le, ← UInt8.toNat_inj, UInt8.reduceToNat]
  split_ifs <;> first | rfl | omega

theorem continuation?_four (ge : 0xf0 ≤ first.toNat) (le : first.toNat ≤ 0xf4) :
    continuation? first =
      some (3, if first.toNat = 0xf0 then 0x90 else 0x80,
        if first.toNat = 0xf4 then 0x8f else 0xbf) := by
  simp only [continuation?, UInt8.le_iff_toNat_le, ← UInt8.toNat_inj, UInt8.reduceToNat]
  split_ifs <;> first | rfl | omega

end Bytes

def sextet (n : Nat) : UInt8 :=
  UInt8.ofNat (n % 64 + 0x80)

theorem toNat_sextet (n : Nat) : (sextet n).toNat = n % 64 + 0x80 := by
  rw [sextet, UInt8.toNat_ofNat']
  omega

-- The byte has to lie between the bounds, which matter for the first one only.
theorem resume_sextet {lo hi : UInt8} {n : Nat} (ge : lo.toNat ≤ n % 64 + 0x80)
    (le : n % 64 + 0x80 ≤ hi.toNat) (taken value left : Nat) (bs : List UInt8) :
    resume taken value lo hi (left + 1) (sextet n :: bs) =
      resume (taken + 1) (value * 64 + n % 64) 0x80 0xbf left bs := by
  have within : lo ≤ sextet n ∧ sextet n ≤ hi := by
    simp only [UInt8.le_iff_toNat_le, toNat_sextet]
    exact ⟨ge, le⟩
  have bits : (sextet n).toNat % 64 = n % 64 := by
    rw [toNat_sextet]
    omega
  rw [resume, if_pos within, bits]

theorem resume_sextet' (n taken value left : Nat) (bs : List UInt8) :
    resume taken value 0x80 0xbf (left + 1) (sextet n :: bs) =
      resume (taken + 1) (value * 64 + n % 64) 0x80 0xbf left bs :=
  resume_sextet (Nat.le_add_left ..) (by have := n.mod_lt (y := 64); simp; omega) ..

theorem ofBytes_of_continuation {first lo hi : UInt8} {n : Nat} (ge : 0x80 ≤ first.toNat)
    (h : continuation? first = some (n, lo, hi)) (rest : List UInt8) :
    ofBytes first rest = resume 1 (first.toNat % (64 >>> n)) lo hi n rest := by
  have later : ¬ first < 0x80 := fun lt => Nat.not_lt.mpr ge (UInt8.lt_iff_toNat_lt.mp lt)
  simp only [ofBytes, if_neg later, h]

theorem toNat_leading {n : Nat} (lt : n < 256) : (UInt8.ofNat n).toNat = n := by
  rw [UInt8.toNat_ofNat']
  omega

theorem exists_ofBytes (c : Char) (rest : List UInt8) :
    ∃ b bs, String.utf8EncodeChar c = b :: bs ∧ ofBytes b (bs ++ rest) = .character c := by
  have valid : c.toNat < 0xd800 ∨ 0xdfff < c.toNat ∧ c.toNat < 0x110000 := c.valid
  have whole {n : Nat} (h : n = c.toNat) : Piece.character (Char.ofNat n) = .character c := by
    rw [h, Char.ofNat_toNat]
  have number : c.val.toNat = c.toNat := rfl
  simp only [String.utf8EncodeChar, number]
  generalize c.toNat = v at valid whole
  split_ifs with one two three
  case pos =>
    have first := toNat_leading (n := v) (by omega)
    have lt : UInt8.ofNat v < 0x80 := by
      rw [UInt8.lt_iff_toNat_lt, first]
      exact Nat.lt_succ_of_le one
    refine ⟨_, [], rfl, ?_⟩
    rw [ofBytes, if_pos lt]
    exact whole first
  case pos =>
    have first := toNat_leading (n := v / 64 % 32 + 192) (by omega)
    refine ⟨_, [sextet v], rfl, ?_⟩
    rw [ofBytes_of_continuation (by omega) (continuation?_two (by omega) (by omega)),
      List.singleton_append, resume_sextet', first]
    exact whole (by simp; omega)
  case pos =>
    have first := toNat_leading (n := v / 4096 % 16 + 224) (by omega)
    refine ⟨_, [sextet (v / 64), sextet v], rfl, ?_⟩
    rw [ofBytes_of_continuation (by omega) (continuation?_three (by omega) (by omega)),
      List.cons_append, List.singleton_append, resume_sextet, resume_sextet', first]
    case ge => rw [first]; split_ifs <;> simp only [UInt8.reduceToNat] <;> omega
    case le => rw [first]; split_ifs <;> simp only [UInt8.reduceToNat] <;> omega
    exact whole (by simp; omega)
  case neg =>
    have first := toNat_leading (n := v / 262144 % 8 + 240) (by omega)
    refine ⟨_, [sextet (v / 4096), sextet (v / 64), sextet v], rfl, ?_⟩
    rw [ofBytes_of_continuation (by omega) (continuation?_four (by omega) (by omega)),
      List.cons_append, List.cons_append, List.singleton_append, resume_sextet, resume_sextet',
      resume_sextet', first]
    case ge => rw [first]; split_ifs <;> simp only [UInt8.reduceToNat] <;> omega
    case le => rw [first]; split_ifs <;> simp only [UInt8.reduceToNat] <;> omega
    exact whole (by simp; omega)

end Piece

theorem encode_cons (c : Char) (cs : List Char) :
    encode (c :: cs) = String.utf8EncodeChar c ++ encode cs :=
  List.flatMap_cons

theorem pieces_encode (cs : List Char) : pieces (encode cs) = cs.map .character := by
  induction cs
  case nil          => rw [encode, List.flatMap_nil, pieces, List.map_nil]
  case cons c cs ih =>
    obtain ⟨b, bs, bytes, piece⟩ := Piece.exists_ofBytes c (encode cs)
    have length : (Piece.character c).length - 1 = bs.length := by
      have := String.length_utf8EncodeChar c
      rw [bytes, List.length_cons] at this
      rw [Piece.length]
      omega
    rw [encode_cons, bytes, List.cons_append, pieces]
    simp only [piece, length, List.drop_left, ih, List.map_cons]

theorem charactersFrom_map (index : Nat) (cs : List Char) :
    charactersFrom index (cs.map .character) = .ok cs := by
  induction cs generalizing index
  case nil          => rfl
  case cons c cs ih => rw [List.map_cons, charactersFrom, ih]; rfl

theorem decode?_encode (cs : List Char) : decode? (encode cs) = .ok cs := by
  rw [decode?, pieces_encode, charactersFrom_map]

theorem zero_not_mem_encode {cs : List Char} (h : '\x00' ∉ cs) : 0 ∉ encode cs := by
  rw [encode, List.mem_flatMap]
  rintro ⟨c, mem, zero⟩
  have pos : c.toNat ≠ 0 := fun eq => h (Char.toNat_inj (d := '\x00') |>.mp eq ▸ mem)
  have number : c.val.toNat = c.toNat := rfl
  simp only [String.utf8EncodeChar, number] at zero
  generalize c.toNat = v at pos zero
  split_ifs at zero <;> simp [← UInt8.toNat_inj] at zero <;> omega

end PointForce.Text
