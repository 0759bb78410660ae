import Mathlib.Tactic.SplitIfs
import PointForce.Document.Token

-- What the scanner passes over. Unless a token is broken, there is no zero among its characters.

namespace PointForce.Document

inductive Passes {α : Type} (good : α → Prop) : List α → List α → Prop
  | none (xs : List α) : Passes good xs xs
  | cons {x : α} {xs rest : List α} : good x → Passes good xs rest → Passes good (x :: xs) rest

namespace Passes

variable {α : Type} {good : α → Prop} {xs ys rest : List α} {x : α}

theorem one (h : good x) (xs : List α) : Passes good (x :: xs) xs :=
  .cons h (.none xs)

theorem trans (p : Passes good xs ys) (q : Passes good ys rest) : Passes good xs rest := by
  induction p
  case none        => exact q
  case cons h _ ih => exact .cons h (ih q)

theorem forall_mem (p : Passes good xs rest) (h : ∀ x ∈ rest, good x) : ∀ x ∈ xs, good x := by
  induction p
  case none          => exact h
  case cons hx _ ih  => exact List.forall_mem_cons.mpr ⟨hx, ih h⟩

theorem isSuffix (p : Passes good xs rest) : rest <:+ xs := by
  induction p
  case none          => exact List.suffix_rfl
  case cons ih       => exact ih.trans (List.suffix_cons ..)

theorem dropWhile {test : α → Bool} (h : ∀ {x}, test x → good x) :
    ∀ xs : List α, Passes good xs (xs.dropWhile test)
  | []      => .none []
  | x :: xs => by
    rw [List.dropWhile_cons]
    split
    case isTrue hx  => exact .cons (h hx) (dropWhile h xs)
    case isFalse hx => exact .none _

theorem drop : ∀ (n : Nat) {xs : List α}, (∀ x ∈ xs.take n, good x) → Passes good xs (xs.drop n)
  | 0,     xs,      _ => .none xs
  | _ + 1, [],      _ => .none []
  | n + 1, x :: xs, h => by
    have ⟨hx, h⟩ := List.forall_mem_cons.mp h
    exact .cons hx (drop n h)

end Passes

def NonZero (c : Char) : Prop :=
  c ≠ '\x00'

instance (c : Char) : Decidable (NonZero c) :=
  inferInstanceAs (Decidable (c ≠ '\x00'))

theorem nonZero_of_isDigit {c : Char} (h : c.isDigit) : NonZero c := by
  rintro rfl
  simp at h

section Text

variable {cs rest : List Char}

theorem nonZero_of_hexDigits : ∀ {cs : List Char} {ds : List Nat}, cs.mapM hexDigit? = some ds →
    ∀ c ∈ cs, NonZero c
  | [],      _, _ => nofun
  | c :: cs, _, h => by
    simp only [List.mapM_cons, Option.bind_eq_bind, Option.bind_eq_some_iff] at h
    obtain ⟨d, digit, ds, digits, _⟩ := h
    refine List.forall_mem_cons.mpr ⟨?_, nonZero_of_hexDigits digits⟩
    rintro rfl
    cases digit

theorem passes_codeUnit {n : Nat} (h : codeUnit cs = .ok (n, rest)) : Passes NonZero cs rest := by
  rw [codeUnit] at h
  split at h
  case isTrue  => cases h
  case isFalse =>
    split at h
    case h_1 value =>
      have ⟨_, digits, _⟩ := Option.map_eq_some_iff.mp value
      cases h
      exact .drop 4 (nonZero_of_hexDigits digits)
    case h_2 => cases h

theorem passes_expectSurrogate : ∀ {ws cs : List Char}, (∀ w ∈ ws, NonZero w) →
    expectSurrogate ws cs = .ok rest → Passes NonZero cs rest
  | [],      cs,      _,    h => by
    cases h
    exact .none _
  | _ :: _,  [],      _,    h => nomatch h
  | w :: ws, c :: cs, good, h => by
    have ⟨hw, good⟩ := List.forall_mem_cons.mp good
    rw [expectSurrogate] at h
    split at h
    case isTrue eq => exact .cons (eq ▸ hw) (passes_expectSurrogate good h)
    case isFalse   => cases h

theorem passes_numbered {c : Char} (h : numbered cs = .ok (c, rest)) : Passes NonZero cs rest := by
  have ⟨(high, _), unit, h⟩ := bind_eq_ok_iff.mp h
  dsimp only at h
  split_ifs at h with low surrogate
  case pos =>
    have ⟨_, mark, h⟩  := bind_eq_ok_iff.mp h
    have ⟨_, unit', h⟩ := bind_eq_ok_iff.mp h
    split_ifs at h
    rw [← (Prod.mk.inj (Except.ok.inj h)).right]
    exact (passes_codeUnit unit).trans
      ((passes_expectSurrogate (by simp [NonZero]) mark).trans (passes_codeUnit unit'))
  case neg =>
    cases h
    exact passes_codeUnit unit

theorem passes_escaped {c : Char} (h : escaped cs = .ok (c, rest)) : Passes NonZero cs rest := by
  unfold escaped at h
  split at h
  case h_9  => exact .cons (by decide) (passes_numbered h)
  case h_10 => cases h
  case h_11 => cases h
  all_goals
    cases h
    exact .one (by decide) _

theorem passes_readText {text : List Char} (h : readText cs = .ok (text, rest)) :
    Passes NonZero cs rest := by
  fun_induction readText cs generalizing text rest
  case case1 => cases h
  case case2 => cases h; exact .one (by decide) _
  case case3 => cases h
  case case4 he _ ih =>
    obtain ⟨_, hr, eq⟩ := map_eq_ok_iff.mp h
    cases eq
    exact .cons (by decide) ((passes_escaped he).trans (ih hr))
  case case5 => cases h
  case case6 low ih =>
    obtain ⟨_, hr, eq⟩ := map_eq_ok_iff.mp h
    cases eq
    exact .cons (by rintro rfl; exact low (by decide)) (ih hr)

end Text

section Number

variable {cs rest : List Char}

open NumberParts

theorem passes_someDigits {ds : List Nat} (h : someDigits cs = .ok (ds, rest)) :
    Passes NonZero cs rest := by
  unfold someDigits at h
  split at h
  case h_1 => cases h
  case h_2 =>
    split at h
    case isTrue  => cases h; exact .dropWhile nonZero_of_isDigit _
    case isFalse => cases h

theorem passes_wholePart {ds : List Nat} (h : wholePart cs = .ok (ds, rest)) :
    Passes NonZero cs rest := by
  unfold wholePart at h
  split at h
  case h_1 =>
    split at h
    case isTrue  => cases h
    case isFalse => cases h; exact .one (by decide) _
  case h_2 => exact passes_someDigits h

theorem passes_fractionPart {ds : Option (List Nat)} (h : fractionPart cs = .ok (ds, rest)) :
    Passes NonZero cs rest := by
  unfold fractionPart at h
  split at h
  case h_1 =>
    have ⟨_, digits, eq⟩ := map_eq_ok_iff.mp h
    cases eq
    exact .cons (by decide) (passes_someDigits digits)
  case h_2 => cases h; exact .none _

theorem passes_sign (cs : List Char) : Passes NonZero cs (sign cs).2 := by
  unfold sign
  split
  case h_1 => exact .one (by decide) _
  case h_2 => exact .none _

theorem passes_exponentSign (cs : List Char) : Passes NonZero cs (exponentSign cs).2 := by
  unfold exponentSign
  split
  case h_1 => exact .one (by decide) _
  case h_2 => exact .one (by decide) _
  case h_3 => exact .none _

theorem passes_exponentPart {e : Option Exponent} (h : exponentPart cs = .ok (e, rest)) :
    Passes NonZero cs rest := by
  unfold exponentPart at h
  split at h
  case h_1 =>
    split at h
    case isTrue mark =>
      have ⟨_, digits, eq⟩ := map_eq_ok_iff.mp h
      cases eq
      refine .cons ?_ ((passes_exponentSign _).trans (passes_someDigits digits))
      rcases mark with rfl | rfl <;> decide
    case isFalse => cases h; exact .none _
  case h_2 => cases h; exact .none _

theorem passes_read {parts : NumberParts} (h : NumberParts.read cs = .ok (parts, rest)) :
    Passes NonZero cs rest := by
  have ⟨_, whole, h⟩    := bind_eq_ok_iff.mp h
  have ⟨_, fraction, h⟩ := bind_eq_ok_iff.mp h
  have ⟨_, exponent, h⟩ := bind_eq_ok_iff.mp h
  cases h
  exact (passes_sign cs).trans ((passes_wholePart whole).trans
    ((passes_fractionPart fraction).trans (passes_exponentPart exponent)))

end Number

namespace Token

def Sound : Token → Prop
  | brokenText _    => False
  | brokenLiteral _ => False
  | stray           => False
  | _               => True

variable {cs rest : List Char}

theorem passes_expectWord : ∀ {ws cs : List Char}, (∀ w ∈ ws, NonZero w) →
    expectWord ws cs = .ok rest → Passes NonZero cs rest
  | [],      _,       _,    h => by
    cases h
    exact .none _
  | _ :: _,  [],      _,    h => nomatch h
  | w :: ws, c :: cs, good, h => by
    have ⟨hw, good⟩ := List.forall_mem_cons.mp good
    rw [expectWord] at h
    split at h
    case isTrue eq => exact .cons (eq ▸ hw) (passes_expectWord good h)
    case isFalse   => cases h

theorem passes_ofWord {token : Token} {word : String} (good : ∀ w ∈ word.toList, NonZero w)
    (h : (ofWord token word cs).1.Sound) : Passes NonZero cs (ofWord token word cs).2 := by
  unfold ofWord at h ⊢
  split at h
  case h_1 read => exact passes_expectWord good read
  case h_2      => cases h

theorem passes_ofText (h : (ofText cs).1.Sound) : Passes NonZero cs (ofText cs).2 := by
  unfold ofText at h ⊢
  split at h
  case h_1 read => exact passes_readText read
  case h_2      => cases h

theorem passes_ofNumber (h : (ofNumber cs).1.Sound) : Passes NonZero cs (ofNumber cs).2 := by
  unfold ofNumber at h ⊢
  split at h
  case h_1 => cases h
  case h_2 read =>
    split at h
    case h_1 => exact passes_read read
    case h_2       => cases h

theorem passes_ofChars {c : Char} (h : (ofChars c cs).1.Sound) :
    Passes NonZero (c :: cs) (ofChars c cs).2 := by
  unfold ofChars at h ⊢
  split at h
  case h_7  => exact .cons (by decide) (passes_ofText h)
  case h_8  => exact .cons (by decide) (passes_ofWord (by simp [NonZero]) h)
  case h_9  => exact .cons (by decide) (passes_ofWord (by simp [NonZero]) h)
  case h_10 => exact .cons (by decide) (passes_ofWord (by simp [NonZero]) h)
  case h_11 =>
    split at h
    case isTrue number =>
      rw [if_pos number]
      exact passes_ofNumber h
    case isFalse => cases h
  all_goals exact .one (by decide) _

end Token

theorem nonZero_of_scan {cs : List Char} (h : ∀ t ∈ scan cs, t.Sound) : ∀ c ∈ cs, NonZero c := by
  induction cs using lexemes.induct
  case case1 => exact nofun
  case case2 c cs blank ih =>
    rw [scan_cons, if_pos blank] at h
    refine List.forall_mem_cons.mpr ⟨?_, ih h⟩
    rintro rfl
    cases blank
  case case3 c cs solid _ ih =>
    rw [scan_cons, if_neg solid] at h
    have ⟨sound, h⟩ := List.forall_mem_cons.mp h
    exact (Token.passes_ofChars sound).forall_mem (ih h)

end PointForce.Document
