import PointForce.Proofs.Document.Literal

-- What comes behind a token does not change the token. A number is the exception: it may go on
-- where the text ends, so something has to be left behind it.

namespace PointForce.Document

def Local {α β ε : Type} (read : List α → Except ε (β × List α)) : Prop :=
  ∀ {xs rest : List α} {v : β}, read xs = .ok (v, rest) →
    ∀ more, read (xs ++ more) = .ok (v, rest ++ more)

def LocalInside {α β ε : Type} (read : List α → Except ε (β × List α)) : Prop :=
  ∀ {xs rest : List α} {v : β}, read xs = .ok (v, rest) → rest ≠ [] →
    ∀ more, read (xs ++ more) = .ok (v, rest ++ more)

section Texts

variable {cs rest : List Char}

theorem utf8Size_of_hexDigit {c : Char} {d : Nat} (h : hexDigit? c = some d) : c.utf8Size = 1 := by
  have ascii : c.val ≤ 127 := by
    unfold hexDigit? at h
    split_ifs at h with digit lower upper
    · simp only [Char.isDigit, Bool.and_eq_true, decide_eq_true_eq] at digit
      exact UInt32.le_trans digit.right (by decide)
    · exact UInt32.le_trans lower.right (by decide)
    · exact UInt32.le_trans upper.right (by decide)
  rw [Char.utf8Size]
  exact if_pos ascii

theorem byteLength_of_hexDigits : ∀ {cs : List Char} {ds : List Nat},
    cs.mapM hexDigit? = some ds → Text.byteLength cs = cs.length
  | [],      _, _ => rfl
  | c :: cs, _, h => by
    simp only [List.mapM_cons, Option.bind_eq_bind, Option.bind_eq_some_iff] at h
    obtain ⟨d, digit, ds, digits, _⟩ := h
    rw [Text.byteLength, utf8Size_of_hexDigit digit, byteLength_of_hexDigits digits,
      List.length_cons, Nat.add_comm]

theorem codeUnit_eq_ok_iff {n : Nat} :
    codeUnit cs = .ok (n, rest) ↔
      ∃ hex, hex.length = 4 ∧ hexValue? hex = some n ∧ cs = hex ++ rest := by
  constructor
  case mp =>
    intro h
    rw [codeUnit] at h
    split at h
    case isTrue       => cases h
    case isFalse long =>
      split at h
      case h_2       => cases h
      case h_1 value =>
        cases h
        refine ⟨cs.take 4, ?_, value, (List.take_append_drop 4 cs).symm⟩
        obtain ⟨_, digits, _⟩ := Option.map_eq_some_iff.mp value
        have bytes := byteLength_of_hexDigits digits
        -- A shorter text of digits would have been cut short.
        by_contra short
        have all : cs.take 4 = cs := List.take_of_length_le (by grind)
        rw [all] at bytes short
        grind
  case mpr =>
    rintro ⟨hex, four, value, rfl⟩
    exact codeUnit_append four value rest

theorem local_codeUnit : Local codeUnit := by
  intro cs rest n h more
  obtain ⟨hex, four, value, rfl⟩ := codeUnit_eq_ok_iff.mp h
  rw [List.append_assoc]
  exact codeUnit_append four value _

theorem expectSurrogate_more : ∀ {ws cs rest : List Char}, expectSurrogate ws cs = .ok rest →
    ∀ more, expectSurrogate ws (cs ++ more) = .ok (rest ++ more)
  | [],      _,      _, h, _    => by cases h; rfl
  | _ :: _,  [],     _, h, _    => nomatch h
  | w :: ws, c :: _, _, h, more => by
    rw [expectSurrogate] at h
    rw [List.cons_append, expectSurrogate]
    split at h
    case isTrue eq => rw [if_pos eq, expectSurrogate_more h more]
    case isFalse   => cases h

theorem local_numbered : Local numbered := by
  intro cs rest c h more
  obtain ⟨⟨n, _⟩, unit, h⟩ := bind_eq_ok_iff.mp h
  rw [numbered, local_codeUnit unit more]
  by_cases low : IsLow n
  case pos => cases (if_pos low).symm.trans h
  case neg =>
    have h := (if_neg low).symm.trans h
    refine (if_neg low).trans ?_
    by_cases high : IsHigh n
    case neg =>
      cases (if_neg high).symm.trans h
      exact if_neg high
    case pos =>
      obtain ⟨_, mark, h⟩       := bind_eq_ok_iff.mp ((if_pos high).symm.trans h)
      obtain ⟨⟨m, _⟩, unit', h⟩ := bind_eq_ok_iff.mp h
      refine (if_pos high).trans (bind_eq_ok_iff.mpr ⟨_, expectSurrogate_more mark more, ?_⟩)
      refine bind_eq_ok_iff.mpr ⟨_, local_codeUnit unit' more, ?_⟩
      by_cases low' : IsLow m
      case neg => cases (if_neg low').symm.trans h
      case pos =>
        obtain ⟨rfl, rfl⟩ := Prod.mk.inj (Except.ok.inj ((if_pos low').symm.trans h))
        exact if_pos low'

theorem local_escaped : Local escaped := by
  intro cs rest c h more
  unfold escaped at h
  split at h
  case h_9  => exact local_numbered h more
  case h_10 => cases h
  case h_11 => cases h
  all_goals
    cases h
    rfl

theorem local_readText : Local readText := by
  intro cs rest text h more
  fun_induction readText cs generalizing text rest
  case case1 => cases h
  case case2 =>
    cases h
    rw [List.cons_append, readText, if_pos rfl]
  case case3 => cases h
  case case4 he _ ih =>
    obtain ⟨_, read, eq⟩ := map_eq_ok_iff.mp h
    cases eq
    rw [List.cons_append, readText_of_escaped (local_escaped he more), ih read]
    rfl
  case case5 => cases h
  case case6 quote backslash low ih =>
    obtain ⟨_, read, eq⟩ := map_eq_ok_iff.mp h
    cases eq
    rw [List.cons_append, readText, if_neg quote, if_neg backslash, if_neg low, ih read]
    rfl

theorem expectWord_more : ∀ {ws cs rest : List Char}, expectWord ws cs = .ok rest →
    ∀ more, expectWord ws (cs ++ more) = .ok (rest ++ more)
  | [],      _,      _, h, _    => by cases h; rfl
  | _ :: _,  [],     _, h, _    => nomatch h
  | w :: ws, c :: _, _, h, more => by
    rw [expectWord] at h
    rw [List.cons_append, expectWord]
    split at h
    case isTrue eq => rw [if_pos eq, expectWord_more h more]
    case isFalse   => cases h

end Texts

section Numbers

open NumberParts

variable {cs rest : List Char}

theorem ne_nil_of_length_le (le : rest.length ≤ cs.length) (left : rest ≠ []) : cs ≠ [] :=
  List.ne_nil_of_length_pos (Nat.lt_of_lt_of_le (List.length_pos_of_ne_nil left) le)

theorem localInside_someDigits : LocalInside someDigits := by
  intro cs rest ds h left more
  unfold someDigits at h
  split at h
  case h_1      => cases h
  case h_2 c cs =>
    split at h
    case isFalse       => cases h
    case isTrue digit =>
      cases h
      have stops : ((c :: cs).takeWhile Char.isDigit).length ≠ (c :: cs).length := by
        intro eq
        have all := List.takeWhile_append_dropWhile (p := Char.isDigit) (l := c :: cs)
        have := congrArg List.length all
        rw [List.length_append, eq] at this
        exact left (List.eq_nil_of_length_eq_zero (Nat.add_eq_left.mp this))
      have some_left : ¬ ((c :: cs).dropWhile Char.isDigit).isEmpty :=
        fun empty => left (List.isEmpty_iff.mp empty)
      have front : digits (c :: cs ++ more) = digits (c :: cs) := by
        rw [digits, List.takeWhile_append, if_neg stops]
        rfl
      have back : afterDigits (c :: cs ++ more) = afterDigits (c :: cs) ++ more := by
        rw [afterDigits, List.dropWhile_append, if_neg some_left]
        rfl
      rw [← front, ← back, List.cons_append, someDigits, if_pos digit]

theorem localInside_wholePart : LocalInside wholePart := by
  intro cs rest ds h left more
  unfold wholePart at h
  split at h
  case h_1 c cs =>
    split at h
    case isTrue        => cases h
    case isFalse digit =>
      cases h
      exact if_neg digit
  case h_2 other =>
    have read := localInside_someDigits h left more
    unfold wholePart
    split
    case h_2 => exact read
    case h_1 c' cs' eq =>
      -- Only a zero at the very end can be followed by anything new.
      cases cs
      case nil       => cases h
      case cons c cs =>
        cases cs
        case nil =>
          cases eq
          cases h
          exact absurd rfl left
        case cons => cases eq; exact absurd rfl (other _ _)

theorem localInside_fractionPart : LocalInside fractionPart := by
  intro cs rest ds h left more
  unfold fractionPart at h
  split at h
  case h_1 =>
    obtain ⟨_, digits, eq⟩ := map_eq_ok_iff.mp h
    cases eq
    rw [List.cons_append, fractionPart, localInside_someDigits digits left more]
    rfl
  case h_2 other =>
    cases h
    obtain ⟨c, cs, rfl⟩ := List.exists_cons_of_ne_nil left
    rw [List.cons_append, fractionPart]
    rintro _ ⟨⟩
    exact other _ rfl

theorem sign_append (left : (sign cs).2 ≠ []) (more : List Char) :
    sign (cs ++ more) = ((sign cs).1, (sign cs).2 ++ more) := by
  unfold sign at *
  split at left
  case h_1       => rfl
  case h_2 other =>
    obtain ⟨c, cs, rfl⟩ := List.exists_cons_of_ne_nil left
    split
    case h_1 eq => cases eq; exact absurd rfl (other _)
    case h_2    => rfl

theorem exponentSign_append (left : (exponentSign cs).2 ≠ []) (more : List Char) :
    exponentSign (cs ++ more) = ((exponentSign cs).1, (exponentSign cs).2 ++ more) := by
  unfold exponentSign at *
  split at left
  case h_1 => rfl
  case h_2 => rfl
  case h_3 minus plus =>
    obtain ⟨c, cs, rfl⟩ := List.exists_cons_of_ne_nil left
    split
    case h_1 eq => cases eq; exact absurd rfl (minus _)
    case h_2 eq => cases eq; exact absurd rfl (plus _)
    case h_3    => rfl

theorem localInside_exponentPart : LocalInside exponentPart := by
  intro cs rest e h left more
  unfold exponentPart at h
  split at h
  case h_2      => cases h; exact absurd rfl left
  case h_1 c cs =>
    split at h
    case isFalse other => cases h; exact if_neg other
    case isTrue mark   =>
      obtain ⟨⟨ds, _⟩, digits, eq⟩ := map_eq_ok_iff.mp h
      cases eq
      have behind := ne_nil_of_length_le (Nat.le_of_lt (length_someDigits digits)) left
      rw [List.cons_append, exponentPart, if_pos mark, exponentSign_append behind,
        localInside_someDigits digits left more]
      rfl

theorem localInside_read : LocalInside NumberParts.read := by
  intro cs rest parts h left more
  have ⟨(ws, cs₁), whole, h⟩    := bind_eq_ok_iff.mp h
  have ⟨(fs, cs₂), fraction, h⟩ := bind_eq_ok_iff.mp h
  have ⟨(es, cs₃), exponent, h⟩ := bind_eq_ok_iff.mp h
  cases h
  have left₂ := ne_nil_of_length_le (length_exponentPart exponent) left
  have left₁ := ne_nil_of_length_le (length_fractionPart fraction) left₂
  have left₀ := ne_nil_of_length_le (Nat.le_of_lt (length_wholePart whole)) left₁
  rw [NumberParts.read, sign_append left₀]
  simp only [localInside_wholePart whole left₁ more, localInside_fractionPart fraction left₂ more,
    localInside_exponentPart exponent left more, bind, Except.bind]

end Numbers

namespace Token

variable {cs : List Char} {c : Char}

theorem ofWord_append {token : Token} {word : String} (sound : (ofWord token word cs).1.Sound)
    (more : List Char) :
    ofWord token word (cs ++ more) =
      ((ofWord token word cs).1, (ofWord token word cs).2 ++ more) := by
  unfold ofWord at *
  split at sound
  case h_1 read => rw [expectWord_more read more]
  case h_2      => cases sound

theorem ofText_append (sound : (ofText cs).1.Sound) (more : List Char) :
    ofText (cs ++ more) = ((ofText cs).1, (ofText cs).2 ++ more) := by
  unfold ofText at *
  split at sound
  case h_1 read => rw [local_readText read more]
  case h_2      => cases sound

theorem ofNumber_append (sound : (ofNumber cs).1.Sound) (left : (ofNumber cs).2 ≠ [])
    (more : List Char) : ofNumber (cs ++ more) = ((ofNumber cs).1, (ofNumber cs).2 ++ more) := by
  unfold ofNumber at sound left ⊢
  cases read : NumberParts.read cs
  case error => rw [read] at sound; cases sound
  case ok r  =>
    rw [read] at sound left
    cases value : r.1.numeral
    case error => simp only [value] at sound; cases sound
    case ok n  =>
      simp only [value] at left
      simp only [localInside_read read left more, value]

theorem ofChars_append (sound : (ofChars c cs).1.Sound) (left : (ofChars c cs).2 ≠ [])
    (more : List Char) : ofChars c (cs ++ more) = ((ofChars c cs).1, (ofChars c cs).2 ++ more) := by
  by_cases start : c = '-' ∨ c.isDigit
  case pos =>
    rw [ofChars_of_number start] at *
    rw [ofChars_of_number start]
    exact ofNumber_append sound left more
  case neg =>
    unfold ofChars at sound ⊢
    split at sound
    case h_7  => exact ofText_append sound more
    case h_8  => exact ofWord_append sound more
    case h_9  => exact ofWord_append sound more
    case h_10 => exact ofWord_append sound more
    case h_11 => rw [if_neg start] at sound; cases sound
    all_goals rfl

def Closes : Token → Prop
  | listEnd   => True
  | objectEnd => True
  | _         => False

theorem ofChars_of_closes (h : (ofChars c cs).1.Closes) (more : List Char) :
    ofChars c (cs ++ more) = ((ofChars c cs).1, (ofChars c cs).2 ++ more) := by
  unfold ofChars ofText ofWord ofNumber at h ⊢
  split at h
  case h_2 => rfl
  case h_4 => rfl
  all_goals grind [Closes]

end Token

theorem scan_append {cs : List Char} (sound : ∀ t ∈ scan cs, t.Sound)
    (closed : ∀ t ∈ (scan cs).getLast?, t.Closes) (more : List Char) :
    scan (cs ++ more) = scan cs ++ scan more := by
  induction cs using lexemes.induct
  case case1 => rw [scan_nil]; rfl
  case case2 c cs blank ih =>
    rw [scan_cons, if_pos blank] at sound closed
    rw [List.cons_append, scan_cons, scan_cons, if_pos blank, if_pos blank, ih sound closed]
  case case3 c cs solid read ih =>
    rw [scan_cons, if_neg solid] at sound closed
    obtain ⟨first, later⟩ := List.forall_mem_cons.mp sound
    have step : Token.ofChars c (cs ++ more) = (read.1, read.2 ++ more) := by
      by_cases last : scan read.2 = []
      case pos =>
        refine Token.ofChars_of_closes (closed _ ?_) more
        rw [last]
        rfl
      case neg =>
        refine Token.ofChars_append first (fun left => last ?_) more
        rw [left, scan_nil]
    have closed' : ∀ t ∈ (scan read.2).getLast?, t.Closes := by
      intro t mem
      refine closed t ?_
      rw [List.getLast?_cons, Option.mem_def.mp mem]
      rfl
    rw [List.cons_append, scan_cons, if_neg solid, step, scan_cons, if_neg solid, List.cons_append,
      ih later closed']

theorem scan_eq_nil_iff {cs : List Char} : scan cs = [] ↔ ∀ c ∈ cs, isBlank c := by
  induction cs
  case nil => exact ⟨fun _ => nofun, fun _ => scan_nil⟩
  case cons c cs ih =>
    rw [scan_cons, List.forall_mem_cons]
    by_cases blank : isBlank c
    case pos => rw [if_pos blank, ih, and_iff_right blank]
    case neg =>
      rw [if_neg blank]
      exact ⟨nofun, fun h => absurd h.left blank⟩

end PointForce.Document
