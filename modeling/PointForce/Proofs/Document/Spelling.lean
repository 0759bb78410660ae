import Mathlib.Data.List.Forall2
import PointForce.Proofs.Document.Scanned

-- How the tokens of a document are spelled, and that the scanner reads them back, whatever blanks
-- stand between them. Only a number can be changed by what comes behind it.

namespace PointForce.Document

inductive Spaced : List (List Char) → List Char → Prop
  | nil {blanks : List Char} : (∀ c ∈ blanks, isBlank c) → Spaced [] blanks
  | cons {blanks token rest : List Char} {tokens : List (List Char)} :
    (∀ c ∈ blanks, isBlank c) → Spaced tokens rest →
    Spaced (token :: tokens) (blanks ++ token ++ rest)

theorem Spaced.exists_of_append {xs ys : List (List Char)} {text : List Char}
    (h : Spaced (xs ++ ys) text) :
    ∃ front back, text = front ++ back ∧ Spaced xs front ∧ Spaced ys back := by
  induction xs generalizing text
  case nil          => exact ⟨[], text, rfl, .nil nofun, h⟩
  case cons x xs ih =>
    rw [List.cons_append] at h
    cases h
    case cons blanks rest blank h =>
      obtain ⟨front, back, rfl, first, last⟩ := ih h
      exact ⟨blanks ++ x ++ front, back, by simp, .cons blank first, last⟩

theorem Spaced.uniform {blanks : List Char} (blank : ∀ c ∈ blanks, isBlank c) :
    ∀ tokens : List (List Char), Spaced tokens (tokens.flatMap (blanks ++ ·) ++ blanks)
  | []              => .nil blank
  | token :: tokens => by
    rw [List.flatMap_cons, List.append_assoc]
    exact .cons blank (uniform blank tokens)

theorem Spaced.flatten (tokens : List (List Char)) : Spaced tokens tokens.flatten := by
  have spaced : Spaced tokens (tokens.flatMap ([] ++ ·) ++ []) :=
    .uniform (List.forall_mem_nil _) tokens
  simpa using spaced

def separated {β : Type} (comma : β) (first : Bool) : List (List β) → List β
  | []      => []
  | g :: gs => (if first then g else comma :: g) ++ separated comma false gs

def bracketed {β : Type} (start stop comma : β) (groups : List (List β)) : List β :=
  start :: (separated comma true groups ++ [stop])

def Continues (c : Char) : Prop :=
  c.isDigit ∨ c = '.' ∨ c = 'e' ∨ c = 'E'

instance (c : Char) : Decidable (Continues c) :=
  inferInstanceAs (Decidable (_ ∨ _))

def EndsNumber (cs : List Char) : Prop :=
  ∀ c ∈ cs.head?, ¬ Continues c

theorem scan_blanks {blanks : List Char} (blank : ∀ c ∈ blanks, isBlank c) (cs : List Char) :
    scan (blanks ++ cs) = scan cs := by
  induction blanks
  case nil              => rfl
  case cons c blanks ih =>
    have ⟨first, later⟩ := List.forall_mem_cons.mp blank
    rw [List.cons_append, scan_cons, if_pos first, ih later]

theorem not_continues_of_isBlank {c : Char} (h : isBlank c) : ¬ Continues c := by
  simp only [isBlank, Bool.or_eq_true, decide_eq_true_eq] at h
  rcases h with ((rfl | rfl) | rfl) | rfl <;> decide

def Opens (texts : List (List Char)) : Prop :=
  ∀ t ∈ texts.head?, t ≠ [] ∧ EndsNumber t

theorem Spaced.endsNumber {texts : List (List Char)} {text rest : List Char}
    (h : Spaced texts text) (opens : Opens texts) (ends : EndsNumber rest) :
    EndsNumber (text ++ rest) := by
  have apart {blanks more : List Char} (blank : ∀ c ∈ blanks, isBlank c) (ends : EndsNumber more) :
      EndsNumber (blanks ++ more) := by
    cases blanks
    case nil  => exact ends
    case cons c blanks =>
      rintro _ ⟨⟩
      exact not_continues_of_isBlank (blank c List.mem_cons_self)
  cases h
  case nil blank => exact apart blank ends
  case cons blanks token text tokens blank _ =>
    have ⟨solid, ends⟩ := opens token rfl
    obtain ⟨c, cs, rfl⟩ := List.exists_cons_of_ne_nil solid
    simp only [List.append_assoc]
    exact apart blank ends

def Broken (ts : List Token) : Prop :=
  ∃ t ∈ ts, ¬ t.Sound

-- No reader that looks at all tokens accepts one of the lists only.
def Agree (ts us : List Token) : Prop :=
  ts = us ∨ Broken ts ∧ Broken us

namespace Agree

variable {ts us vs : List Token}

theorem eq_of_sound (h : Agree ts us) (sound : ∀ t ∈ us, t.Sound) : ts = us :=
  h.resolve_right fun ⟨_, t, mem, broken⟩ => broken (sound t mem)

theorem trans (h : Agree ts us) (h' : Agree us vs) : Agree ts vs := by
  rcases h with rfl | ⟨first, _⟩
  case inl => exact h'
  case inr =>
    rcases h' with rfl | ⟨_, last⟩
    case inl => exact .inr ⟨first, ‹_›⟩
    case inr => exact .inr ⟨first, last⟩

theorem append_left (h : Agree ts us) (front : List Token) : Agree (front ++ ts) (front ++ us) := by
  have behind {ts : List Token} : Broken ts → Broken (front ++ ts) :=
    fun ⟨t, mem, broken⟩ => ⟨t, List.mem_append_right _ mem, broken⟩
  exact h.imp (congrArg (front ++ ·)) (And.imp behind behind)

end Agree

-- The scanner finds these tokens where these texts are spelled, unless one of them is broken.
def Spells (texts : List (List Char)) (tokens : List Token) : Prop :=
  ∀ text rest, Spaced texts text → EndsNumber rest →
    Agree (scan (text ++ rest)) (tokens ++ scan rest)

namespace Spells

variable {t : List Char} {token : Token} {xs ys : List (List Char)} {ts us : List Token}

theorem nil : Spells [] [] := by
  rintro _ rest ⟨blank⟩ _
  exact .inl (scan_blanks blank rest)

-- A number is what it is only if nothing follows that it would go on with.
theorem one (h : ∀ rest, EndsNumber rest → Agree (scan (t ++ rest)) (token :: scan rest)) :
    Spells [t] [token] := by
  rintro _ rest (_ | ⟨blank, later⟩) ends
  cases later
  case nil blank' =>
    have ends' := Spaced.endsNumber (.nil blank') nofun ends
    rw [List.append_assoc, List.append_assoc, scan_blanks blank, ← scan_blanks blank' rest]
    exact h _ ends'

theorem cons (h : ∀ rest, scan (t ++ rest) = token :: scan rest) (later : Spells xs ts) :
    Spells (t :: xs) (token :: ts) := by
  rintro _ rest (_ | ⟨blank, spaced⟩) ends
  rw [List.append_assoc, List.append_assoc, scan_blanks blank, h]
  exact (later _ _ spaced ends).append_left [token]

theorem word (h : ∀ rest, scan (t ++ rest) = token :: scan rest) : Spells [t] [token] :=
  .cons h .nil

theorem append (first : Spells xs ts) (opens : Opens ys) (later : Spells ys us) :
    Spells (xs ++ ys) (ts ++ us) := by
  intro text rest spaced ends
  obtain ⟨front, back, rfl, spaced, spaced'⟩ := spaced.exists_of_append
  rw [List.append_assoc, List.append_assoc]
  exact (first _ _ spaced (spaced'.endsNumber opens ends)).trans
    ((later _ _ spaced' ends).append_left ts)

structure Mark (c : Char) (token : Token) : Prop where
  solid : isBlank c = false
  apart : ¬ Continues c
  token : ∀ cs, Token.ofChars c cs = (token, cs)

namespace Mark

theorem listStart : Mark '[' .listStart := ⟨rfl, by decide, fun _ => rfl⟩

theorem listEnd : Mark ']' .listEnd := ⟨rfl, by decide, fun _ => rfl⟩

theorem objectStart : Mark '\x7b' .objectStart := ⟨rfl, by decide, fun _ => rfl⟩

theorem objectEnd : Mark '\x7d' .objectEnd := ⟨rfl, by decide, fun _ => rfl⟩

theorem comma : Mark ',' .comma := ⟨rfl, by decide, fun _ => rfl⟩

theorem colon : Mark ':' .colon := ⟨rfl, by decide, fun _ => rfl⟩

end Mark

variable {c d k : Char} {token' between : Token}

theorem scan_solid (solid : isBlank c = false) (cs : List Char) :
    scan (c :: cs) = (Token.ofChars c cs).1 :: scan (Token.ofChars c cs).2 := by
  rw [scan_cons, if_neg (Bool.eq_false_iff.mp solid)]

theorem Mark.opens (m : Mark c token) (texts : List (List Char)) : Opens ([c] :: texts) := by
  rintro _ ⟨⟩
  refine ⟨List.cons_ne_nil _ _, ?_⟩
  rintro _ ⟨⟩
  exact m.apart

theorem mark (m : Mark c token) (later : Spells xs ts) : Spells ([c] :: xs) (token :: ts) := by
  refine cons (fun rest => ?_) later
  rw [List.singleton_append, scan_solid m.solid, m.token]

variable {groups : List (List (List Char))} {tss : List (List Token)}

theorem separated (m : Mark k between) (spelled : List.Forall₂ Spells groups tss) (first : Bool) :
    Spells (separated [k] first groups) (separated between first tss) := by
  have opens : ∀ gs : List (List (List Char)), Opens (Document.separated [k] false gs)
    | []     => nofun
    | _ :: _ => m.opens _
  induction spelled generalizing first
  case nil => exact nil
  case cons group _ ih =>
    have spells := group.append (opens _) (ih false)
    cases first
    case true  => exact spells
    case false => exact mark m spells

theorem bracketed (start : Mark c token) (stop : Mark d token') (m : Mark k between)
    (spelled : List.Forall₂ Spells groups tss) :
    Spells (bracketed [c] [d] [k] groups) (bracketed token token' between tss) :=
  mark start ((separated m spelled true).append (stop.opens []) (mark stop nil))

end Spells

section Texts

def isPlain (c : Char) : Bool :=
  c ≠ '"' && c ≠ '\\' && 0x20 ≤ c.toNat

-- The short escapes are left out.
inductive Written : List Char → List Char → Prop
  | nil : Written [] []
  | plain {c : Char} {text cs : List Char} :
    isPlain c → Written text cs → Written (c :: text) (c :: cs)
  | numbered {c : Char} {hex text cs : List Char} :
    hex.length = 4 → hexValue? hex = some c.toNat → Written text cs →
    Written (c :: text) ('\\' :: 'u' :: hex ++ cs)

theorem Written.refl : ∀ {text : List Char}, text.all isPlain → Written text text
  | [],     _ => .nil
  | _ :: _, h => by
    rw [List.all_cons, Bool.and_eq_true] at h
    exact .plain h.left (refl h.right)

theorem length_le_byteLength : ∀ cs : List Char, cs.length ≤ Text.byteLength cs
  | []      => Nat.zero_le _
  | c :: cs => by
    have := length_le_byteLength cs
    have := c.utf8Size_pos
    rw [List.length_cons, Text.byteLength]
    omega

theorem codeUnit_append {hex : List Char} {n : Nat} (four : hex.length = 4)
    (value : hexValue? hex = some n) (rest : List Char) :
    codeUnit (hex ++ rest) = .ok (n, rest) := by
  have long : ¬ Text.byteLength (hex ++ rest) < 4 := by
    have := length_le_byteLength (hex ++ rest)
    rw [List.length_append] at this
    omega
  rw [codeUnit, if_neg long, List.take_left' four, List.drop_left' four, value]

theorem escaped_numbered {c : Char} {hex : List Char} (four : hex.length = 4)
    (value : hexValue? hex = some c.toNat) (rest : List Char) :
    escaped ('u' :: hex ++ rest) = .ok (c, rest) := by
  have scalar : c.toNat < 0xd800 ∨ 0xdfff < c.toNat ∧ c.toNat < 0x110000 := c.valid
  change numbered (hex ++ rest) = _
  rw [numbered, codeUnit_append four value]
  simp only [bind, Except.bind]
  rw [if_neg (by omega), if_neg (by omega), Char.ofNat_toNat]

theorem readText_of_isPlain {c : Char} (h : isPlain c) (cs : List Char) :
    readText (c :: cs) = (readText cs).map fun (text, rest) => (c :: text, rest) := by
  simp only [isPlain, Bool.and_eq_true, decide_eq_true_eq] at h
  obtain ⟨⟨quote, backslash⟩, printed⟩ := h
  rw [readText, if_neg quote, if_neg backslash, if_neg (Nat.not_lt.mpr printed)]

theorem readText_of_escaped {c : Char} {cs rest : List Char} (h : escaped cs = .ok (c, rest)) :
    readText ('\\' :: cs) = (readText rest).map fun (text, rest) => (c :: text, rest) := by
  rw [readText, if_neg (by decide), if_pos rfl]
  split
  case h_1 eq => cases eq.symm.trans h
  case h_2 eq => cases eq.symm.trans h; rfl

theorem readText_of_written {text cs : List Char} (written : Written text cs) (rest : List Char) :
    readText (cs ++ '"' :: rest) = .ok (text, rest) := by
  induction written
  case nil => rw [List.nil_append, readText, if_pos rfl]
  case plain h _ ih =>
    rw [List.cons_append, readText_of_isPlain h, ih]
    rfl
  case numbered hex text cs four value _ ih =>
    have escape := escaped_numbered four value (cs ++ '"' :: rest)
    rw [List.append_assoc, List.cons_append, readText_of_escaped escape, ih]
    rfl

def quoted (cs : List Char) : List Char :=
  '"' :: (cs ++ ['"'])

theorem scan_quoted {text : String} {cs : List Char} (written : Written text.toList cs)
    (rest : List Char) : scan (quoted cs ++ rest) = .text text :: scan rest := by
  have read : Token.ofChars '"' (cs ++ '"' :: rest) = (.text text, rest) := by
    change Token.ofText _ = _
    rw [Token.ofText, readText_of_written written]
    simp only [String.ofList_toList]
  rw [quoted, List.cons_append, List.append_assoc, List.singleton_append, Spells.scan_solid rfl,
    read]

end Texts

section Words

theorem expectWord_append : ∀ word rest : List Char, expectWord word (word ++ rest) = .ok rest
  | [],      _    => rfl
  | w :: ws, rest => by rw [List.cons_append, expectWord, if_pos rfl, expectWord_append ws rest]

theorem scan_word {text word : String} {c : Char} {token : Token}
    (spelled : text.toList = c :: word.toList) (solid : isBlank c = false)
    (is : ∀ cs, Token.ofChars c cs = Token.ofWord token word cs) (rest : List Char) :
    scan (text.toList ++ rest) = token :: scan rest := by
  have read : Token.ofChars c (word.toList ++ rest) = (token, rest) := by
    rw [is, Token.ofWord, expectWord_append]
  rw [spelled, List.cons_append, Spells.scan_solid solid, read]

theorem scan_null (rest : List Char) : scan ("null".toList ++ rest) = .null :: scan rest :=
  scan_word (by decide : _ = 'n' :: "ull".toList) rfl (fun _ => rfl) rest

theorem scan_boolean (b : Bool) (rest : List Char) :
    scan ((toString b).toList ++ rest) = .boolean b :: scan rest := by
  cases b
  case false =>
    exact scan_word (by decide : "false".toList = 'f' :: "alse".toList) rfl (fun _ => rfl) rest
  case true  =>
    exact scan_word (by decide : "true".toList = 't' :: "rue".toList) rfl (fun _ => rfl) rest

end Words

section Numbers

open NumberParts

variable {ds rest : List Char} {n : Nat}

structure Decimal (ds : List Char) (n : Nat) : Prop where
  digits  : ∀ c ∈ ds, c.isDigit
  solid   : ds ≠ []
  leading : ds.head? = some '0' → ds = ['0']
  value   : Nat.ofDigitChars 10 ds 0 = n

theorem decimal_toDigits (n : Nat) : Decimal (Nat.toDigits 10 n) n where
  digits _ mem := Nat.isDigit_of_mem_toDigits (by decide) (by decide) mem
  solid        := Nat.toDigits_ne_nil
  value        := Nat.ofDigitChars_ten_toDigits
  leading      := by
    induction n using Nat.base_induction 10 (by decide)
    case single d lt => simp +contextual [Nat.toDigits_of_lt_base lt]
    case digit m d lt pos ih =>
      rw [← Nat.toDigits_append_toDigits (by decide) pos lt,
        List.head?_append_of_ne_nil _ Nat.toDigits_ne_nil]
      intro zero
      have := Nat.ofDigitChars_ten_toDigits (n := m)
      rw [ih zero] at this
      exact absurd this (Nat.ne_of_lt pos)

def EndsDigits (cs : List Char) : Prop :=
  ∀ c ∈ cs.head?, ¬ c.isDigit

theorem EndsNumber.endsDigits (ends : EndsNumber rest) : EndsDigits rest :=
  fun c mem digit => ends c mem (.inl digit)

theorem takeWhile_isDigit (ends : EndsDigits rest) : rest.takeWhile Char.isDigit = [] := by
  cases rest
  case nil       => rfl
  case cons c cs => exact List.takeWhile_cons_of_neg (ends c rfl)

theorem dropWhile_isDigit (ends : EndsDigits rest) : rest.dropWhile Char.isDigit = rest := by
  cases rest
  case nil       => rfl
  case cons c cs => exact List.dropWhile_cons_of_neg (ends c rfl)

def digitValues (ds : List Char) : List Nat :=
  ds.map fun c => c.toNat - '0'.toNat

section Append

variable (digits : ∀ c ∈ ds, c.isDigit) (solid : ds ≠ []) (ends : EndsDigits rest)
include digits solid ends

theorem someDigits_append : someDigits (ds ++ rest) = .ok (digitValues ds, rest) := by
  have front : NumberParts.digits (ds ++ rest) = digitValues ds := by
    rw [NumberParts.digits, List.takeWhile_append_of_pos digits, takeWhile_isDigit ends,
      List.append_nil]
    rfl
  have back : afterDigits (ds ++ rest) = rest := by
    rw [afterDigits, List.dropWhile_append_of_pos digits, dropWhile_isDigit ends]
  obtain ⟨c, cs, rfl⟩ := List.exists_cons_of_ne_nil solid
  rw [List.cons_append] at *
  rw [someDigits, if_pos (digits c List.mem_cons_self), front, back]

theorem wholePart_append (leading : ds.head? = some '0' → ds = ['0']) :
    wholePart (ds ++ rest) = .ok (digitValues ds, rest) := by
  unfold wholePart
  split
  case h_1 c cs eq =>
    -- A zero is followed by more only if that is no digit of the number.
    have zero : ds = ['0'] := by
      refine leading ?_
      rw [← List.head?_append_of_ne_nil _ solid, eq]
      rfl
    subst zero
    obtain rfl : rest = c :: cs := (List.cons.inj eq).right
    rw [if_neg (ends c rfl)]
    rfl
  case h_2 => exact someDigits_append digits solid ends

end Append

theorem fractionPart_of_ends (ends : EndsNumber rest) : fractionPart rest = .ok (none, rest) := by
  unfold fractionPart
  split
  case h_1 => exact absurd (.inr (.inl rfl)) (ends '.' rfl)
  case h_2 => rfl

theorem exponentPart_of_ends (ends : EndsNumber rest) : exponentPart rest = .ok (none, rest) := by
  unfold exponentPart
  split
  case h_1 c cs => exact if_neg fun mark => ends c rfl (.inr (.inr mark))
  case h_2      => rfl

theorem Decimal.read_append (d : Decimal ds n) {cs : List Char} {negative : Bool}
    (ends : EndsNumber rest) (signed : sign cs = (negative, ds ++ rest)) :
    NumberParts.read cs =
      .ok ({ negative, whole := digitValues ds, fraction := none, exponent := none }, rest) := by
  rw [NumberParts.read, signed]
  simp only [wholePart_append d.digits d.solid ends.endsDigits d.leading,
    fractionPart_of_ends ends, exponentPart_of_ends ends, bind, Except.bind]

theorem absorb_of_lt {limit : Nat} : ∀ {values : List Nat} {n : Nat},
    values.foldl (10 * · + ·) n < limit →
    absorb limit n values = (values.foldl (10 * · + ·) n, [])
  | [],          _, _  => rfl
  | v :: values, n, lt => by
    have grows (values : List Nat) : ∀ n, n ≤ values.foldl (10 * · + ·) n := by
      induction values
      case nil              => exact Nat.le_refl
      case cons v values ih => exact fun n => Nat.le_trans (by omega) (ih (10 * n + v))
    have below : 10 * n + v < limit := Nat.lt_of_le_of_lt (grows values _) lt
    rw [absorb, if_pos below]
    exact absorb_of_lt lt

theorem Decimal.numeral_eq (d : Decimal ds n) (lt : n < 0x10000000000000000) (negative : Bool) :
    numeral { negative, whole := digitValues ds, fraction := none, exponent := none } =
      .ok (integer negative n) := by
  have value : (digitValues ds).foldl (10 * · + ·) 0 = n := by
    rw [digitValues, List.foldl_map]
    exact d.value
  have absorbed := absorb_of_lt (value.symm ▸ lt)
  rw [value] at absorbed
  simp only [numeral, absorbed]

theorem ofChars_of_number {c : Char} (h : c = '-' ∨ c.isDigit) (cs : List Char) :
    Token.ofChars c cs = Token.ofNumber (c :: cs) := by
  unfold Token.ofChars
  split
  case h_11 => exact if_pos h
  all_goals exact absurd h (by decide)

theorem isBlank_of_number {c : Char} (h : c = '-' ∨ c.isDigit) : isBlank c = false := by
  rw [Bool.eq_false_iff]
  intro blank
  simp only [isBlank, Bool.or_eq_true, decide_eq_true_eq] at blank
  rcases blank with ((rfl | rfl) | rfl) | rfl <;> revert h <;> decide

theorem Decimal.scan_append {c : Char} {cs : List Char} {negative : Bool} (d : Decimal ds n)
    (lt : n < 0x10000000000000000) (ends : EndsNumber rest) (start : c = '-' ∨ c.isDigit)
    (signed : sign (c :: cs) = (negative, ds ++ rest)) :
    scan (c :: cs) = .number (integer negative n) :: scan rest := by
  have read : Token.ofNumber (c :: cs) = (.number (integer negative n), rest) := by
    simp only [Token.ofNumber, d.read_append ends signed, d.numeral_eq lt]
  rw [Spells.scan_solid (isBlank_of_number start), ofChars_of_number start, read]

theorem scan_natural (lt : n < 0x10000000000000000) (ends : EndsNumber rest) :
    scan (Nat.toDigits 10 n ++ rest) = .number (.natural n) :: scan rest := by
  have d := decimal_toDigits n
  obtain ⟨c, cs, eq⟩ := List.exists_cons_of_ne_nil d.solid
  have digit : c.isDigit := d.digits c (eq ▸ List.mem_cons_self)
  have text : Nat.toDigits 10 n ++ rest = c :: (cs ++ rest) := congrArg (· ++ rest) eq
  have unsigned : sign (c :: (cs ++ rest)) = (false, Nat.toDigits 10 n ++ rest) := by
    rw [text]
    unfold sign
    split
    case h_1 minus => exact absurd ((List.cons.inj minus).left ▸ digit) (by decide)
    case h_2       => rfl
  rw [text, d.scan_append lt ends (.inr digit) unsigned]
  rfl

theorem scan_negative (le : n + 1 ≤ 0x8000000000000000) (ends : EndsNumber rest) :
    scan ('-' :: Nat.toDigits 10 (n + 1) ++ rest) = .number (.negative (n + 1)) :: scan rest := by
  have d := decimal_toDigits (n + 1)
  have size : integer true (n + 1) = .negative (n + 1) := by
    rw [integer, if_neg (by decide), if_pos ⟨n.succ_pos, le⟩]
  rw [List.cons_append, d.scan_append (by omega) ends (.inl rfl) rfl, size]

def Numeral.ofInt : Int → Numeral
  | .ofNat n   => .natural n
  | .negSucc n => .negative (n + 1)

theorem Numeral.toFloat_ofInt : ∀ z : Int, (ofInt z).toFloat = Float.ofInt z
  | .ofNat _   => rfl
  | .negSucc _ => rfl

theorem scan_integer {z : Int} (ge : -0x8000000000000000 ≤ z) (lt : z < 0x10000000000000000)
    (ends : EndsNumber rest) :
    scan ((toString z).toList ++ rest) = .number (.ofInt z) :: scan rest := by
  cases z
  case ofNat n =>
    have text : (toString (Int.ofNat n)).toList = Nat.toDigits 10 n := Nat.toList_repr
    rw [text]
    exact scan_natural (Int.ofNat_lt.mp lt) ends
  case negSucc n =>
    have text : (toString (Int.negSucc n)).toList = '-' :: Nat.toDigits 10 (n + 1) := by
      simp [Int.repr]
    rw [text]
    exact scan_negative (by omega) ends

end Numbers

end PointForce.Document
