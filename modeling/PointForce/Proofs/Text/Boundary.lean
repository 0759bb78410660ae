import Mathlib.Order.Bounds.Basic
import PointForce.Proofs.Text.Encoding

-- Whoever steps back from any place as long as the byte there continues a character gets to a place
-- between two characters, and never in front of the text.

namespace PointForce.Text

def isContinuation (b : UInt8) : Bool :=
  0x80 ≤ b && b ≤ 0xbf

def isBoundary (bytes : List UInt8) (n : Nat) : Bool :=
  n == 0 ||
    match bytes[n]? with
    | some b => !isContinuation b
    | none   => n == bytes.length

-- Without a boundary, the way would lead in front of the text.
def stepBack (bytes : List UInt8) : Nat → Option Nat
  | 0     => if isBoundary bytes 0 then some 0 else none
  | n + 1 => if isBoundary bytes (n + 1) then some (n + 1) else stepBack bytes n

def CutsAt (cs : List Char) (n : Nat) : Prop :=
  ∃ front, front <+: cs ∧ byteLength front = n

section Bytes

variable {bytes front rest : List UInt8} {n : Nat}

theorem isBoundary_zero (bytes : List UInt8) : isBoundary bytes 0 :=
  rfl

theorem isBoundary_of_getElem? (pos : n ≠ 0) {b : UInt8} (h : bytes[n]? = some b) :
    isBoundary bytes n = !isContinuation b := by
  simp [isBoundary, h, pos]

theorem exists_stepBack (bytes : List UInt8) (n : Nat) :
    ∃ k, stepBack bytes n = some k ∧ IsGreatest { m | m ≤ n ∧ isBoundary bytes m } k := by
  induction n
  case zero => exact ⟨0, rfl, ⟨Nat.le_refl 0, isBoundary_zero bytes⟩, fun _ h => h.left⟩
  case succ n ih =>
    rw [stepBack]
    split
    case isTrue boundary => exact ⟨n + 1, rfl, ⟨Nat.le_refl _, boundary⟩, fun _ h => h.left⟩
    case isFalse inside  =>
      have ⟨k, stepped, ⟨le, boundary⟩, greatest⟩ := ih
      refine ⟨k, stepped, ⟨Nat.le_succ_of_le le, boundary⟩, fun m ⟨le, boundary⟩ => ?_⟩
      have ne : m ≠ n + 1 := fun eq => inside (eq ▸ boundary)
      exact greatest ⟨by omega, boundary⟩

theorem isBoundary_append_add (nonempty : front ≠ [])
    (first : ∀ b, rest[0]? = some b → isContinuation b = false) (n : Nat) :
    isBoundary (front ++ rest) (front.length + n) = isBoundary rest n := by
  have ne : front.length + n ≠ 0 := by
    have := List.length_pos_iff.mpr nonempty
    omega
  have behind : (front ++ rest)[front.length + n]? = rest[n]? := by
    rw [List.getElem?_append_right (Nat.le_add_right ..), Nat.add_sub_cancel_left]
  cases at_n : rest[n]?
  case none   =>
    have past : rest.length ≤ n := List.getElem?_eq_none_iff.mp at_n
    rw [Bool.eq_iff_iff]
    simp only [isBoundary, behind, at_n, Bool.or_eq_true, beq_iff_eq, List.length_append]
    omega
  case some b =>
    rw [isBoundary_of_getElem? ne (behind.trans at_n)]
    by_cases zero : n = 0
    case pos =>
      subst zero
      rw [first b at_n, isBoundary_zero, Bool.not_false]
    case neg => rw [isBoundary_of_getElem? zero at_n]

end Bytes

theorem exists_leading (c : Char) : ∃ b bs, String.utf8EncodeChar c = b :: bs ∧
    isContinuation b = false ∧ ∀ b ∈ bs, isContinuation b := by
  have continues_iff {b : UInt8} : isContinuation b ↔ 0x80 ≤ b.toNat ∧ b.toNat ≤ 0xbf := by
    simp [isContinuation, UInt8.le_iff_toNat_le]
  have leading {n : Nat} (lt : n < 256) (h : n < 0x80 ∨ 0xbf < n) :
      isContinuation (UInt8.ofNat n) = false := by
    rw [← Bool.not_eq_true, continues_iff, Piece.toNat_leading lt]
    omega
  have sextet (n : Nat) : isContinuation (Piece.sextet n) := by
    rw [continues_iff, Piece.toNat_sextet]
    omega
  simp only [String.utf8EncodeChar]
  generalize c.val.toNat = v
  split_ifs
  · exact ⟨_, [], rfl, leading (by omega) (by omega), nofun⟩
  · exact ⟨_, [Piece.sextet v], rfl, leading (by omega) (by omega), by simp [sextet]⟩
  · exact ⟨_, [Piece.sextet (v / 64), Piece.sextet v], rfl, leading (by omega) (by omega),
      by simp [sextet]⟩
  · exact ⟨_, [Piece.sextet (v / 4096), Piece.sextet (v / 64), Piece.sextet v], rfl,
      leading (by omega) (by omega), by simp [sextet]⟩

theorem length_encode (cs : List Char) : (encode cs).length = byteLength cs := by
  induction cs
  case nil          => rfl
  case cons c cs ih =>
    rw [encode_cons, List.length_append, String.length_utf8EncodeChar, ih, byteLength]

theorem not_isContinuation_encode (cs : List Char) {b : UInt8} (h : (encode cs)[0]? = some b) :
    isContinuation b = false := by
  cases cs
  case nil       => cases h
  case cons c cs =>
    obtain ⟨b', bs, bytes, first, _⟩ := exists_leading c
    rw [encode_cons, bytes, List.cons_append, List.getElem?_cons_zero] at h
    cases h
    exact first

theorem isBoundary_encode_cons {c : Char} {cs : List Char} {n : Nat} :
    isBoundary (encode (c :: cs)) n ↔
      n = 0 ∨ ∃ m, n = c.utf8Size + m ∧ isBoundary (encode cs) m := by
  obtain ⟨b, bs, bytes, _, later⟩ := exists_leading c
  have size : (b :: bs).length = c.utf8Size := by rw [← bytes, String.length_utf8EncodeChar]
  have behind (m : Nat) :
      isBoundary (encode (c :: cs)) (c.utf8Size + m) = isBoundary (encode cs) m := by
    rw [encode_cons, bytes, ← size]
    exact isBoundary_append_add (List.cons_ne_nil b bs) (fun _ => not_isContinuation_encode cs) m
  rcases Nat.lt_or_ge n c.utf8Size with lt | ge
  case inr =>
    obtain ⟨m, rfl⟩ := Nat.exists_eq_add_of_le ge
    have := c.utf8Size_pos
    rw [behind]
    constructor
    case mp  => exact fun boundary => .inr ⟨m, rfl, boundary⟩
    case mpr =>
      rintro (zero | ⟨m', eq, boundary⟩)
      case inl => omega
      case inr => exact Nat.add_left_cancel eq ▸ boundary
  case inl =>
    rw [or_iff_left fun ⟨m, eq, _⟩ => Nat.not_lt.mpr (Nat.le.intro eq.symm) lt]
    refine ⟨fun boundary => ?_, fun zero => zero ▸ isBoundary_zero _⟩
    by_contra pos
    have ⟨k, eq⟩ := Nat.exists_eq_succ_of_ne_zero pos
    have lt' : k < bs.length := by
      rw [List.length_cons] at size
      omega
    have inside : (encode (c :: cs))[n]? = some bs[k] := by
      rw [encode_cons, bytes, eq, List.cons_append, List.getElem?_cons_succ,
        List.getElem?_append_left lt', List.getElem?_eq_getElem lt']
    rw [isBoundary_of_getElem? pos inside, later _ (List.getElem_mem lt')] at boundary
    cases boundary

theorem cutsAt_cons {c : Char} {cs : List Char} {n : Nat} :
    CutsAt (c :: cs) n ↔ n = 0 ∨ ∃ m, n = c.utf8Size + m ∧ CutsAt cs m := by
  constructor
  case mp =>
    rintro ⟨front, isFront, rfl⟩
    rcases List.prefix_cons_iff.mp isFront with rfl | ⟨later, rfl, inside⟩
    case inl => exact .inl rfl
    case inr => exact .inr ⟨_, rfl, later, inside, rfl⟩
  case mpr =>
    rintro (rfl | ⟨m, rfl, front, isFront, rfl⟩)
    case inl => exact ⟨[], List.nil_prefix, rfl⟩
    case inr => exact ⟨c :: front, List.cons_prefix_cons.mpr ⟨rfl, isFront⟩, rfl⟩

theorem isBoundary_encode_iff {cs : List Char} {n : Nat} :
    isBoundary (encode cs) n ↔ CutsAt cs n := by
  induction cs generalizing n
  case nil          => simp [isBoundary, CutsAt, encode, byteLength, eq_comm (a := n)]
  case cons c cs ih => simp only [isBoundary_encode_cons, cutsAt_cons, ih]

theorem CutsAt.le_byteLength {cs : List Char} {n : Nat} (h : CutsAt cs n) : n ≤ byteLength cs := by
  induction cs generalizing n
  case nil =>
    have ⟨front, isFront, eq⟩ := h
    rw [← eq, List.prefix_nil.mp isFront]
  case cons c cs ih =>
    rcases cutsAt_cons.mp h with rfl | ⟨m, rfl, inside⟩
    case inl => exact Nat.zero_le _
    case inr => exact Nat.add_le_add_left (ih inside) _

theorem isGreatest_fitting (limit : Nat) (cs : List Char) :
    IsGreatest { n | n ≤ limit ∧ CutsAt cs n } (byteLength (fitting limit cs)) := by
  refine ⟨⟨byteLength_fitting_le limit cs, _, fitting_isPrefix limit cs, rfl⟩, ?_⟩
  rintro n ⟨le, cut⟩
  induction cs generalizing limit n
  case nil          => exact cut.le_byteLength.trans (Nat.zero_le _)
  case cons c cs ih =>
    rcases cutsAt_cons.mp cut with rfl | ⟨m, rfl, inside⟩
    case inl => exact Nat.zero_le _
    case inr =>
      rw [fitting, if_pos (Nat.le_of_add_right_le le), byteLength]
      exact Nat.add_le_add_left (ih (limit - c.utf8Size) (by omega) inside) _

-- A character takes at most four bytes, so one that does not fit leaves at most three unused.
theorem min_le_byteLength_fitting (limit : Nat) (cs : List Char) :
    min (byteLength cs) limit ≤ byteLength (fitting limit cs) + 3 := by
  induction cs generalizing limit
  case nil          => simp [byteLength]
  case cons c cs ih =>
    rw [fitting]
    split
    case isTrue =>
      have := ih (limit - c.utf8Size)
      rw [byteLength, byteLength]
      omega
    case isFalse tooLong =>
      have := c.utf8Size_le_four
      omega

theorem encode_append (front later : List Char) :
    encode (front ++ later) = encode front ++ encode later :=
  List.flatMap_append

theorem take_encode {front cs : List Char} (h : front <+: cs) :
    (encode cs).take (byteLength front) = encode front := by
  obtain ⟨later, rfl⟩ := h
  rw [encode_append, ← length_encode, List.take_left]

theorem stepBack_encode (room : Nat) (cs : List Char) :
    stepBack (encode cs) (min (byteLength cs) room) = some (byteLength (fitting room cs)) := by
  have ⟨⟨within, cut⟩, greatest⟩ := isGreatest_fitting room cs
  obtain ⟨k, stepped, ⟨le, boundary⟩, nearest⟩ :=
    exists_stepBack (encode cs) (min (byteLength cs) room)
  have ⟨_, le_room⟩ := Nat.le_min.mp le
  have upper : k ≤ byteLength (fitting room cs) :=
    greatest ⟨le_room, isBoundary_encode_iff.mp boundary⟩
  have lower : byteLength (fitting room cs) ≤ k :=
    nearest ⟨Nat.le_min.mpr ⟨cut.le_byteLength, within⟩, isBoundary_encode_iff.mpr cut⟩
  rw [stepped, Nat.le_antisymm upper lower]

-- There is room for the first byte of the last character only.
example : stepBack (encode ['f', 'é']) 2 = some 1 := by
  decide +kernel

structure Excerpt (message : List Char) (room : Nat) (written : List Char) : Prop where
  greatest : IsGreatest { n | n ≤ room ∧ n ≤ byteLength message ∧ CutsAt message n }
    (byteLength written)
  reached  : stepBack (encode message) (min (byteLength message) room) = some (byteLength written)
  bytes    : encode written = (encode message).take (byteLength written)
  decoded  : decode? ((encode message).take (byteLength written)) = .ok written
  front    : written <+: message
  unused   : min (byteLength message) room ≤ byteLength written + 3

theorem excerpt_fitting (room : Nat) (message : List Char) :
    Excerpt message room (fitting room message) := by
  have isFront := fitting_isPrefix room message
  have bytes := take_encode isFront
  have ⟨⟨within, cut⟩, greatest⟩ := isGreatest_fitting room message
  exact
    { greatest := ⟨⟨within, cut.le_byteLength, cut⟩, fun _ ⟨le, _, cut⟩ => greatest ⟨le, cut⟩⟩
      reached  := stepBack_encode room message
      bytes    := bytes.symm
      decoded  := bytes ▸ decode?_encode _
      front    := isFront
      unused   := min_le_byteLength_fitting room message }

end PointForce.Text
