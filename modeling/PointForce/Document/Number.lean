import PointForce.Document.Fault

-- The numbers of a document. Digits are read into 64 bits, and what does not fit only shifts the
-- point. So a long number is not always the nearest one in binary64.

namespace PointForce.Document

structure Exponent where
  negative : Bool
  digits   : List Nat
  deriving DecidableEq, Repr

structure NumberParts where
  negative : Bool
  whole    : List Nat
  fraction : Option (List Nat)
  exponent : Option Exponent
  deriving DecidableEq, Repr

namespace NumberParts

def digits (cs : List Char) : List Nat :=
  (cs.takeWhile Char.isDigit).map fun c => c.toNat - '0'.toNat

def afterDigits (cs : List Char) : List Char :=
  cs.dropWhile Char.isDigit

def someDigits : List Char → Scanning (List Nat × List Char)
  | []      => .error (.atFirst .endInValue [])
  | c :: cs =>
    if c.isDigit then
      .ok (digits (c :: cs), afterDigits (c :: cs))
    else
      .error (.atFirst .malformedNumber (c :: cs))

-- A zero does not lead other digits.
def wholePart : List Char → Scanning (List Nat × List Char)
  | '0' :: c :: cs =>
    if c.isDigit then .error (.atFirst .malformedNumber (c :: cs)) else .ok ([0], c :: cs)
  | cs             => someDigits cs

def fractionPart : List Char → Scanning (Option (List Nat) × List Char)
  | '.' :: cs => (someDigits cs).map fun (ds, rest) => (some ds, rest)
  | cs        => .ok (none, cs)

def sign : List Char → Bool × List Char
  | '-' :: cs => (true, cs)
  | cs        => (false, cs)

def exponentSign : List Char → Bool × List Char
  | '-' :: cs => (true, cs)
  | '+' :: cs => (false, cs)
  | cs        => (false, cs)

def exponentPart : List Char → Scanning (Option Exponent × List Char)
  | c :: cs =>
    if c = 'e' ∨ c = 'E' then
      (someDigits (exponentSign cs).2).map fun (digits, rest) =>
        (some { negative := (exponentSign cs).1, digits }, rest)
    else
      .ok (none, c :: cs)
  | [] => .ok (none, [])

def read (cs : List Char) : Scanning (NumberParts × List Char) := do
  let (whole, rest)    ← wholePart (sign cs).2
  let (fraction, rest) ← fractionPart rest
  let (exponent, rest) ← exponentPart rest
  .ok ({ negative := (sign cs).1, whole, fraction, exponent }, rest)

theorem length_someDigits {cs rest : List Char} {ds : List Nat}
    (h : someDigits cs = .ok (ds, rest)) : rest.length < cs.length := by
  match cs with
  | c :: cs =>
    rw [someDigits] at h
    split at h
    case isTrue hc =>
      have : (cs.dropWhile Char.isDigit).length ≤ cs.length := (List.dropWhile_sublist _).length_le
      have : rest = cs.dropWhile Char.isDigit := by simp_all [afterDigits]
      grind
    case isFalse => simp at h

theorem length_wholePart {cs rest : List Char} {ds : List Nat}
    (h : wholePart cs = .ok (ds, rest)) : rest.length < cs.length := by
  unfold wholePart at h
  split at h
  case h_1 => grind
  case h_2 => exact length_someDigits h

theorem length_fractionPart {cs rest : List Char} {ds : Option (List Nat)}
    (h : fractionPart cs = .ok (ds, rest)) : rest.length ≤ cs.length := by
  unfold fractionPart at h
  split at h
  case h_1 =>
    have ⟨_, hd, he⟩ := map_eq_ok_iff.mp h
    have := length_someDigits hd
    grind
  case h_2 => grind

theorem length_sign (cs : List Char) : (sign cs).2.length ≤ cs.length := by
  unfold sign
  split <;> simp

theorem length_exponentSign (cs : List Char) : (exponentSign cs).2.length ≤ cs.length := by
  unfold exponentSign
  split <;> simp

theorem length_exponentPart {cs rest : List Char} {e : Option Exponent}
    (h : exponentPart cs = .ok (e, rest)) : rest.length ≤ cs.length := by
  unfold exponentPart at h
  split at h
  case h_1 c cs =>
    split at h
    case isTrue =>
      have ⟨_, hd, he⟩ := map_eq_ok_iff.mp h
      have := length_exponentSign cs
      have := length_someDigits hd
      grind
    case isFalse => grind
  case h_2 => grind

theorem length_read {cs rest : List Char} {parts : NumberParts}
    (h : read cs = .ok (parts, rest)) : rest.length < cs.length := by
  have ⟨_, hw, h⟩ := bind_eq_ok_iff.mp h
  have ⟨_, hf, h⟩ := bind_eq_ok_iff.mp h
  have ⟨_, he, h⟩ := bind_eq_ok_iff.mp h
  have := length_sign cs
  have := length_wholePart hw
  have := length_fractionPart hf
  have := length_exponentPart he
  grind

-- Stops in front of the first digit that would not leave the number below the limit.
def absorb (limit n : Nat) : List Nat → Nat × List Nat
  | []      => (n, [])
  | d :: ds => if 10 * n + d < limit then absorb limit (10 * n + d) ds else (n, d :: ds)

def powerOfTen (n : Nat) : Float :=
  .ofScientific 1 false n

def scaleUp (x : Float) (n : Nat) : Scanning Float :=
  if n ≤ 308 then
    let y := x * powerOfTen n
    if y.isInf then .error ⟨.numberOutOfRange, 0⟩ else .ok y
  else
    if x == 0 then .ok x else .error ⟨.numberOutOfRange, 0⟩

-- No power of ten past the 308th is finite, so a division by more takes several steps.
def scaleDown (x : Float) (n : Nat) : Float :=
  if n ≤ 308 then
    x / powerOfTen n
  else
    if x == 0 then x else scaleDown (x / powerOfTen 308) (n - 308)
termination_by n
decreasing_by omega

def scale (x : Float) : Int → Scanning Float
  | .ofNat n   => scaleUp x n
  | .negSucc n => .ok (scaleDown x (n + 1))

def applySign (negative : Bool) (x : Float) : Float :=
  if negative then -x else x

-- Zero with a sign is no integer, as it is not the same as zero.
def integer (negative : Bool) (n : Nat) : Numeral :=
  if !negative then .natural n
  else if 0 < n ∧ n ≤ 0x8000000000000000 then .negative n
  else .binary (-Float.ofNat n)

-- A written exponent of more than 32 bits is not read to its end if it is too large.
def magnitude (n : Nat) (shift : Int) : Option Exponent → Scanning Float
  | none   => scale (Float.ofNat n) shift
  | some e =>
    match absorb 0x80000000 0 e.digits with
    | (k, [])          => scale (Float.ofNat n) (if e.negative then shift - k else shift + k)
    | (_, _ :: unread) =>
      if n ≠ 0 ∧ ¬e.negative then .error ⟨.numberOutOfRange, unread.length⟩ else .ok 0

def numeral (parts : NumberParts) : Scanning Numeral :=
  let (n, left) := absorb 0x10000000000000000 0 parts.whole
  match parts.fraction, parts.exponent, left with
  | none, none, [] => .ok (integer parts.negative n)
  | fraction, exponent, left =>
    let fraction    := fraction.getD []
    let (n, unread) := absorb 0x10000000000000000 n fraction
    let shift : Int := left.length - (fraction.length - unread.length : Nat)
    (magnitude n shift exponent).map fun x => .binary (applySign parts.negative x)

end NumberParts
end PointForce.Document
