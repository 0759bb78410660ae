import PointForce.Proofs.Document.Scanned
import PointForce.Proofs.Document.Spelling

-- The numbers and the texts of a document in all their spellings. Not each of them has a value: a
-- number can be too large, and a text can hold half of a surrogate pair.

namespace PointForce.Document

structure Digits where
  chars  : List Char
  digits : ∀ c ∈ chars, c.isDigit
  solid  : chars ≠ []

inductive ExponentSign
  | none
  | plus
  | minus
  deriving DecidableEq

def ExponentSign.chars : ExponentSign → List Char
  | none  => []
  | plus  => ['+']
  | minus => ['-']

structure ExponentLiteral where
  mark   : Char
  marks  : mark = 'e' ∨ mark = 'E'
  sign   : ExponentSign
  digits : Digits

structure NumberLiteral where
  negative : Bool
  whole    : Digits
  leading  : whole.chars.head? = some '0' → whole.chars = ['0']
  fraction : Option Digits
  exponent : Option ExponentLiteral

namespace NumberLiteral

def fractionChars : Option Digits → List Char
  | none    => []
  | some ds => '.' :: ds.chars

def exponentChars : Option ExponentLiteral → List Char
  | none   => []
  | some e => e.mark :: (e.sign.chars ++ e.digits.chars)

def signChars (negative : Bool) : List Char :=
  if negative then ['-'] else []

def chars (n : NumberLiteral) : List Char :=
  signChars n.negative ++ n.whole.chars ++ fractionChars n.fraction ++ exponentChars n.exponent

def parts (n : NumberLiteral) : NumberParts where
  negative := n.negative
  whole    := digitValues n.whole.chars
  fraction := n.fraction.map fun ds => digitValues ds.chars
  exponent := n.exponent.map fun e =>
    { negative := e.sign = .minus, digits := digitValues e.digits.chars }

def numeral? (n : NumberLiteral) : Option Numeral :=
  n.parts.numeral.toOption

end NumberLiteral

section Numbers

open NumberParts NumberLiteral

variable {rest : List Char}

theorem Digits.isDigit_of_append (ds : Digits) {c : Char} {cs : List Char}
    (h : ds.chars ++ rest = c :: cs) : c.isDigit := by
  obtain ⟨d, digits, eq⟩ := List.exists_cons_of_ne_nil ds.solid
  rw [eq, List.cons_append] at h
  exact (List.cons.inj h).left ▸ ds.digits d (eq ▸ List.mem_cons_self)

theorem sign_signChars (negative : Bool) (ds : Digits) (rest : List Char) :
    sign (signChars negative ++ ds.chars ++ rest) = (negative, ds.chars ++ rest) := by
  cases negative
  case true  => rfl
  case false =>
    change sign (ds.chars ++ rest) = _
    unfold sign
    split
    case h_1 eq => exact absurd (ds.isDigit_of_append eq) (by decide)
    case h_2    => rfl

theorem exponentSign_chars (s : ExponentSign) (ds : Digits) (rest : List Char) :
    exponentSign (s.chars ++ ds.chars ++ rest) = (decide (s = .minus), ds.chars ++ rest) := by
  cases s
  case plus  => rfl
  case minus => rfl
  case none  =>
    change exponentSign (ds.chars ++ rest) = _
    unfold exponentSign
    split
    case h_1 eq => exact absurd (ds.isDigit_of_append eq) (by decide)
    case h_2 eq => exact absurd (ds.isDigit_of_append eq) (by decide)
    case h_3    => rfl

theorem exponentPart_append (ends : EndsNumber rest) (e : Option ExponentLiteral) :
    exponentPart (exponentChars e ++ rest) =
      .ok (e.map fun e => ⟨e.sign = .minus, digitValues e.digits.chars⟩, rest) := by
  cases e
  case none   => exact exponentPart_of_ends ends
  case some e =>
    have digits := someDigits_append e.digits.digits e.digits.solid ends.endsDigits
    rw [exponentChars, List.cons_append, exponentPart, if_pos e.marks, exponentSign_chars, digits]
    rfl

theorem endsDigits_exponent (ends : EndsNumber rest) (e : Option ExponentLiteral) :
    EndsDigits (exponentChars e ++ rest) := by
  cases e
  case none   => exact ends.endsDigits
  case some e =>
    rintro _ ⟨⟩
    rcases e.marks with eq | eq <;> rw [eq] <;> decide

theorem fractionPart_append (ends : EndsNumber rest) (f : Option Digits)
    (e : Option ExponentLiteral) :
    fractionPart (fractionChars f ++ (exponentChars e ++ rest)) =
      .ok (f.map fun ds => digitValues ds.chars, exponentChars e ++ rest) := by
  cases f
  case some ds =>
    have digits := someDigits_append ds.digits ds.solid (endsDigits_exponent ends e)
    rw [fractionChars, List.cons_append, fractionPart, digits]
    rfl
  case none =>
    cases e
    case none   => exact fractionPart_of_ends ends
    case some e =>
      change fractionPart (e.mark :: _) = _
      rcases e.marks with eq | eq <;> rw [eq, exponentChars, eq] <;> rfl

theorem endsDigits_fraction (ends : EndsNumber rest) (f : Option Digits)
    (e : Option ExponentLiteral) : EndsDigits (fractionChars f ++ (exponentChars e ++ rest)) := by
  cases f
  case none    => exact endsDigits_exponent ends e
  case some ds =>
    rintro _ ⟨⟩
    decide

theorem NumberLiteral.read_append (n : NumberLiteral) (ends : EndsNumber rest) :
    NumberParts.read (n.chars ++ rest) = .ok (n.parts, rest) := by
  have text : n.chars ++ rest = signChars n.negative ++ n.whole.chars ++
      (fractionChars n.fraction ++ (exponentChars n.exponent ++ rest)) := by
    simp only [chars, List.append_assoc]
  have whole := wholePart_append n.whole.digits n.whole.solid
    (endsDigits_fraction ends n.fraction n.exponent) n.leading
  rw [NumberParts.read, text, sign_signChars]
  simp only [whole, fractionPart_append ends, exponentPart_append ends, bind, Except.bind, parts]

end Numbers

def IsHigh (n : Nat) : Prop :=
  0xd800 ≤ n ∧ n ≤ 0xdbff

def IsLow (n : Nat) : Prop :=
  0xdc00 ≤ n ∧ n ≤ 0xdfff

instance (n : Nat) : Decidable (IsHigh n) :=
  inferInstanceAs (Decidable (_ ∧ _))

instance (n : Nat) : Decidable (IsLow n) :=
  inferInstanceAs (Decidable (_ ∧ _))

def joined (high low : Nat) : Char :=
  .ofNat (0x10000 + (high - 0xd800) * 0x400 + (low - 0xdc00))

def shortEscapes : List (Char × Char) :=
  [('"', '"'), ('\\', '\\'), ('/', '/'), ('b', '\x08'), ('f', '\x0c'), ('n', '\n'), ('r', '\r'),
    ('t', '\t')]

inductive Letter
  | plain (c : Char) (plain : isPlain c)
  | short (mark c : Char) (short : (mark, c) ∈ shortEscapes)
  | unit (hex : List Char) (n : Nat) (four : hex.length = 4) (value : hexValue? hex = some n)

namespace Letter

def chars : Letter → List Char
  | plain c _      => [c]
  | short mark _ _ => ['\\', mark]
  | unit hex _ _ _ => '\\' :: 'u' :: hex

-- The two halves of a character have to stand next to each other.
def decode? : List Letter → Option (List Char)
  | []                   => some []
  | plain c _ :: ls      => (decode? ls).map (c :: ·)
  | short _ c _ :: ls    => (decode? ls).map (c :: ·)
  | unit _ high _ _ :: ls =>
    if IsLow high then
      none
    else if IsHigh high then
      match ls with
      | unit _ low _ _ :: ls =>
        if IsLow low then (decode? ls).map (joined high low :: ·) else none
      | _ => none
    else
      (decode? ls).map (Char.ofNat high :: ·)

end Letter

section Texts

open Letter

theorem escaped_of_short {mark c : Char} (short : (mark, c) ∈ shortEscapes) (cs : List Char) :
    escaped (mark :: cs) = .ok (c, cs) := by
  simp only [shortEscapes, List.mem_cons, Prod.mk.injEq, List.not_mem_nil, or_false] at short
  rcases short with h | h | h | h | h | h | h | h
  all_goals
    obtain ⟨rfl, rfl⟩ := h
    rfl

theorem not_isLow_of_isHigh {n : Nat} (high : IsHigh n) : ¬ IsLow n :=
  fun low => absurd (Nat.le_trans low.left high.right) (by decide)

section Units

variable {hex : List Char} {n : Nat} (four : hex.length = 4) (value : hexValue? hex = some n)
include four value

theorem numbered_of_isLow (low : IsLow n) (rest : List Char) :
    numbered (hex ++ rest) = .error ⟨.loneSurrogate, Text.byteLength rest⟩ := by
  rw [numbered, codeUnit_append four value]
  exact if_pos low

theorem numbered_of_unpaired (high : IsHigh n) {rest : List Char} {stop : Stop Nat}
    (unpaired : expectSurrogate ['\\', 'u'] rest = .error stop) :
    numbered (hex ++ rest) = .error stop := by
  rw [numbered, codeUnit_append four value]
  refine (if_neg (not_isLow_of_isHigh high)).trans ((if_pos high).trans ?_)
  rw [unpaired]
  rfl

theorem numbered_pair (high : IsHigh n) {hex' : List Char} {low : Nat} (four' : hex'.length = 4)
    (value' : hexValue? hex' = some low) (rest : List Char) :
    numbered (hex ++ '\\' :: 'u' :: (hex' ++ rest)) =
      if IsLow low then .ok (joined n low, rest)
      else .error ⟨.loneSurrogate, Text.byteLength rest⟩ := by
  have mark : expectSurrogate ['\\', 'u'] ('\\' :: 'u' :: (hex' ++ rest)) = .ok (hex' ++ rest) :=
    rfl
  rw [numbered, codeUnit_append four value]
  refine (if_neg (not_isLow_of_isHigh high)).trans ((if_pos high).trans ?_)
  rw [mark]
  change (codeUnit (hex' ++ rest) >>= _) = _
  rw [codeUnit_append four' value']
  rfl

theorem numbered_of_not (not_low : ¬ IsLow n) (not_high : ¬ IsHigh n) (rest : List Char) :
    numbered (hex ++ rest) = .ok (Char.ofNat n, rest) := by
  rw [numbered, codeUnit_append four value]
  exact (if_neg not_low).trans (if_neg not_high)

end Units

def Letter.closed (ls : List Letter) (rest : List Char) : List Char :=
  ls.flatMap chars ++ '"' :: rest

theorem closed_unit {hex : List Char} {n : Nat} (four : hex.length = 4)
    (value : hexValue? hex = some n) (ls : List Letter) (rest : List Char) :
    closed (unit hex n four value :: ls) rest = '\\' :: 'u' :: (hex ++ closed ls rest) := by
  simp [closed, chars]

theorem expectSurrogate_of_not_unit {ls : List Letter}
    (other : ∀ hex n four value ls', ls = unit hex n four value :: ls' → False)
    (rest : List Char) : ∃ stop, expectSurrogate ['\\', 'u'] (closed ls rest) = .error stop := by
  rcases ls with _ | ⟨_ | _ | _, ls⟩
  case nil => exact ⟨_, rfl⟩
  case cons.plain c plain =>
    have : c ≠ '\\' := by rintro rfl; exact absurd plain (by decide)
    exact ⟨_, if_neg this⟩
  case cons.short mark c short =>
    have : mark ≠ 'u' := by rintro rfl; simp [shortEscapes] at short
    exact ⟨_, if_neg this⟩
  case cons.unit => exact absurd rfl (other _ _ _ _ _)

theorem toOption_prepend {read : Scanning (List Char × List Char)} {text : Option (List Char)}
    {rest : List Char} (h : read.toOption = text.map (·, rest)) (c : Char) :
    (read.map fun (text, rest) => (c :: text, rest)).toOption =
      (text.map (c :: ·)).map (·, rest) := by
  cases read
  case error =>
    rw [Option.map_eq_none_iff.mp h.symm]
    rfl
  case ok =>
    obtain ⟨text, rfl, eq⟩ := Option.map_eq_some_iff.mp h.symm
    cases eq
    rfl

theorem readText_of_escaped_error {cs : List Char} {stop : Stop Nat}
    (h : escaped cs = .error stop) : readText ('\\' :: cs) = .error stop := by
  rw [readText, if_neg (by decide), if_pos rfl]
  split
  case h_1 eq => cases eq.symm.trans h; rfl
  case h_2 eq => cases eq.symm.trans h

theorem toOption_readText (rest : List Char) (ls : List Letter) :
    (readText (closed ls rest)).toOption = (decode? ls).map (·, rest) := by
  fun_induction decode? ls
  case case1 =>
    change (readText ('"' :: rest)).toOption = _
    rw [readText, if_pos rfl]
    rfl
  case case2 c plain ls ih =>
    change (readText (c :: closed ls rest)).toOption = _
    rw [readText_of_isPlain plain]
    exact toOption_prepend ih c
  case case3 mark c short ls ih =>
    change (readText ('\\' :: mark :: closed ls rest)).toOption = _
    rw [readText_of_escaped (escaped_of_short short _)]
    exact toOption_prepend ih c
  case case4 hex n four value ls low =>
    have refused : escaped ('u' :: (hex ++ closed ls rest)) = _ :=
      numbered_of_isLow four value low _
    rw [closed_unit, readText_of_escaped_error refused]
    rfl
  case case5 hex n four value _ high hex' n' four' value' ls low ih =>
    have paired : escaped ('u' :: (hex ++ '\\' :: 'u' :: (hex' ++ closed ls rest))) = _ :=
      numbered_pair four value high four' value' _
    rw [if_pos low] at paired
    rw [closed_unit, closed_unit, readText_of_escaped paired]
    exact toOption_prepend ih _
  case case6 hex n four value _ high hex' n' four' value' ls not_low =>
    have refused : escaped ('u' :: (hex ++ '\\' :: 'u' :: (hex' ++ closed ls rest))) = _ :=
      numbered_pair four value high four' value' _
    rw [if_neg not_low] at refused
    rw [closed_unit, closed_unit, readText_of_escaped_error refused]
    rfl
  case case7 hex n four value ls _ high other =>
    obtain ⟨stop, eq⟩ := expectSurrogate_of_not_unit other rest
    have refused : escaped ('u' :: (hex ++ closed ls rest)) = .error stop :=
      numbered_of_unpaired four value high eq
    rw [closed_unit, readText_of_escaped_error refused]
    rfl
  case case8 hex n four value ls not_low not_high ih =>
    have single : escaped ('u' :: (hex ++ closed ls rest)) = _ :=
      numbered_of_not four value not_low not_high _
    rw [closed_unit, readText_of_escaped single]
    exact toOption_prepend ih _

end Texts

end PointForce.Document
