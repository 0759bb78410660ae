namespace PointForce.Text

inductive EncodingFault
  | invalid (length index : Nat)
  | incomplete (index : Nat)
  deriving DecidableEq, Repr

-- What a run of bytes stands for: a character, or the longest run that could begin one but is not
-- continued, or is cut off at the end.
inductive Piece
  | character (c : Char)
  | invalid (length : Nat)
  | incomplete (length : Nat)
  deriving DecidableEq, Repr

namespace Piece

def length : Piece → Nat
  | character c  => c.utf8Size
  | invalid n    => n
  | incomplete n => n

-- The bounds leave out surrogates, what is past the last code point, and what could be written in
-- fewer bytes.
def continuation? (first : UInt8) : Option (Nat × UInt8 × UInt8) :=
  if 0xc2 ≤ first ∧ first ≤ 0xdf then some (1, 0x80, 0xbf)
  else if first = 0xe0 then some (2, 0xa0, 0xbf)
  else if first = 0xed then some (2, 0x80, 0x9f)
  else if 0xe1 ≤ first ∧ first ≤ 0xef then some (2, 0x80, 0xbf)
  else if first = 0xf0 then some (3, 0x90, 0xbf)
  else if 0xf1 ≤ first ∧ first ≤ 0xf3 then some (3, 0x80, 0xbf)
  else if first = 0xf4 then some (3, 0x80, 0x8f)
  else none

def resume (taken value : Nat) (lo hi : UInt8) : Nat → List UInt8 → Piece
  | 0,     _       => .character (Char.ofNat value)
  | _ + 1, []      => .incomplete taken
  | n + 1, b :: bs =>
    if lo ≤ b ∧ b ≤ hi then
      resume (taken + 1) (value * 64 + b.toNat % 64) 0x80 0xbf n bs
    else
      .invalid taken

def ofBytes (first : UInt8) (rest : List UInt8) : Piece :=
  if first < 0x80 then
    .character (Char.ofNat first.toNat)
  else
    match continuation? first with
    | some (n, lo, hi) => resume 1 (first.toNat % (64 >>> n)) lo hi n rest
    | none             => .invalid 1

end Piece

def pieces : List UInt8 → List Piece
  | []      => []
  | b :: bs =>
    let piece := Piece.ofBytes b bs
    piece :: pieces (bs.drop (piece.length - 1))
termination_by bytes => bytes.length
decreasing_by
  simp only [List.length_drop, List.length_cons]
  omega

def decodeLossy (bytes : List UInt8) : String :=
  String.ofList <| (pieces bytes).map fun
    | .character c => c
    | _            => '\ufffd'

def charactersFrom (index : Nat) : List Piece → Except EncodingFault (List Char)
  | []                  => .ok []
  | .character c :: ps  => (charactersFrom (index + c.utf8Size) ps).map (c :: ·)
  | .invalid n :: _     => .error (.invalid n index)
  | .incomplete _ :: _  => .error (.incomplete index)

def decode? (bytes : List UInt8) : Except EncodingFault (List Char) :=
  charactersFrom 0 (pieces bytes)

def byteLength : List Char → Nat
  | []      => 0
  | c :: cs => c.utf8Size + byteLength cs

def fitting : Nat → List Char → List Char
  | room, c :: cs => if c.utf8Size ≤ room then c :: fitting (room - c.utf8Size) cs else []
  | _,    []      => []

theorem fitting_isPrefix : ∀ (room : Nat) (cs : List Char), fitting room cs <+: cs
  | room, c :: cs => by
    rw [fitting]
    split
    case isTrue  => exact List.cons_prefix_cons.mpr ⟨rfl, fitting_isPrefix _ cs⟩
    case isFalse => exact List.nil_prefix
  | _, [] => List.nil_prefix

theorem byteLength_fitting_le : ∀ (room : Nat) (cs : List Char), byteLength (fitting room cs) ≤ room
  | room, c :: cs => by
    rw [fitting]
    split
    case isTrue h =>
      have := byteLength_fitting_le (room - c.utf8Size) cs
      rw [byteLength]
      omega
    case isFalse => simp [byteLength]
  | room, [] => by simp [fitting, byteLength]

end PointForce.Text
