import PointForce.Proofs.Document.Accepted
import PointForce.Proofs.Document.Literal

-- A literal that has no value stops the scanner. What stands behind it does not matter, as no
-- reader gets past it.

namespace PointForce.Document

def Letter.string? (ls : List Letter) : Option String :=
  (decode? ls).map String.ofList

structure Symbol where
  text  : List Char
  token : Token

namespace Symbol

def ofNumber (n : NumberLiteral) : Symbol where
  text  := n.chars
  token := n.numeral?.elim .stray .number

def ofText (ls : List Letter) : Symbol where
  text  := quoted (ls.flatMap Letter.chars)
  token := (Letter.string? ls).elim .stray .text

end Symbol

inductive Value
  | null
  | boolean (b : Bool)
  | number (n : NumberLiteral)
  | text (ls : List Letter)
  | list (vs : List Value)
  | object (fields : List (List Letter × Value))

abbrev Field :=
  List Letter × Value

namespace Value

def symbols : Value → List Symbol
  | null          => [⟨"null".toList, .null⟩]
  | boolean b     => [⟨(toString b).toList, .boolean b⟩]
  | number n      => [.ofNumber n]
  | text ls       => [.ofText ls]
  | list vs       =>
    bracketed ⟨['['], .listStart⟩ ⟨[']'], .listEnd⟩ ⟨[','], .comma⟩ (vs.map fun v => v.symbols)
  | object fields =>
    bracketed ⟨['\x7b'], .objectStart⟩ ⟨['\x7d'], .objectEnd⟩ ⟨[','], .comma⟩
      (fields.map fun f => Symbol.ofText f.1 :: ⟨[':'], .colon⟩ :: f.2.symbols)
decreasing_by
  · decreasing_tactic
  · have := List.sizeOf_lt_of_mem ‹_›
    cases f
    simp_all
    omega

def texts (v : Value) : List (List Char) :=
  v.symbols.map Symbol.text

def tokens (v : Value) : List Token :=
  v.symbols.map Symbol.token

end Value

theorem map_separated {β γ : Type} (f : β → γ) (comma : β) : ∀ (first : Bool) (gs : List (List β)),
    (separated comma first gs).map f = separated (f comma) first (gs.map (List.map f))
  | _,     []      => rfl
  | true,  g :: gs => by
    rw [List.map_cons, separated, separated, List.map_append, map_separated f comma false gs]
    rfl
  | false, g :: gs => by
    rw [List.map_cons, separated, separated, List.map_append, map_separated f comma false gs]
    rfl

theorem map_bracketed {β γ : Type} (f : β → γ) (start stop comma : β) (gs : List (List β)) :
    (bracketed start stop comma gs).map f =
      bracketed (f start) (f stop) (f comma) (gs.map (List.map f)) := by
  rw [bracketed, bracketed, List.map_cons, List.map_append, map_separated]
  rfl

theorem Agree.readTokens_iff {ts us : List Token} (h : Agree ts us) {c : Config Float} :
    readTokens ts = .ok c ↔ readTokens us = .ok c := by
  rcases h with rfl | ⟨first, last⟩
  case inl => rfl
  case inr =>
    have refused {ts : List Token} : Broken ts → ¬ readTokens ts = .ok c :=
      fun ⟨t, mem, broken⟩ read => broken (sound_of_readTokens read t mem)
    exact ⟨fun read => absurd read (refused first), fun read => absurd read (refused last)⟩

theorem NumberLiteral.exists_chars (n : NumberLiteral) :
    ∃ c cs, n.chars = c :: cs ∧ (c = '-' ∨ c.isDigit) := by
  obtain ⟨d, ds, eq⟩ := List.exists_cons_of_ne_nil n.whole.solid
  have digit : d.isDigit := n.whole.digits d (eq ▸ List.mem_cons_self)
  rw [chars, eq]
  cases n.negative
  case true  => exact ⟨_, _, rfl, .inl rfl⟩
  case false => exact ⟨_, _, rfl, .inr digit⟩

def Scans (ss : List Symbol) : Prop :=
  Spells (ss.map Symbol.text) (ss.map Symbol.token)

theorem Scans.number (n : NumberLiteral) : Scans [.ofNumber n] := by
  refine Spells.one fun rest ends => ?_
  obtain ⟨c, cs, eq, start⟩ := n.exists_chars
  have scanned : scan (n.chars ++ rest) = (Token.ofNumber (n.chars ++ rest)).1 ::
      scan (Token.ofNumber (n.chars ++ rest)).2 := by
    rw [eq, List.cons_append, Spells.scan_solid (isBlank_of_number start),
      ofChars_of_number start]
  change Agree (scan (n.chars ++ rest)) (n.numeral?.elim .stray .number :: scan rest)
  rw [scanned, Token.ofNumber, n.read_append ends, NumberLiteral.numeral?]
  dsimp only
  cases n.parts.numeral
  case ok x    => exact .inl rfl
  case error _ => exact .inr ⟨⟨_, List.mem_cons_self, id⟩, ⟨_, List.mem_cons_self, id⟩⟩

theorem Scans.text (ls : List Letter) : Scans [.ofText ls] := by
  refine Spells.one fun rest _ => ?_
  have scanned : scan (quoted (ls.flatMap Letter.chars) ++ rest) =
      (Token.ofText (Letter.closed ls rest)).1 ::
        scan (Token.ofText (Letter.closed ls rest)).2 := by
    rw [quoted, List.cons_append, List.append_assoc, List.singleton_append, Spells.scan_solid rfl]
    rfl
  have read := toOption_readText rest ls
  change Agree (scan (quoted _ ++ rest)) ((Letter.string? ls).elim .stray .text :: scan rest)
  rw [scanned, Token.ofText, Letter.string?]
  cases result : readText (Letter.closed ls rest)
  case ok x =>
    rw [result] at read
    obtain ⟨cs, decoded, rfl⟩ := Option.map_eq_some_iff.mp read.symm
    rw [decoded]
    exact .inl rfl
  case error stop =>
    rw [result] at read
    rw [Option.map_eq_none_iff.mp read.symm]
    exact .inr ⟨⟨_, List.mem_cons_self, id⟩, ⟨_, List.mem_cons_self, id⟩⟩

theorem Scans.bracketed {c d e : Char} {token token' between : Token} {groups : List (List Symbol)}
    (start : Spells.Mark c token) (stop : Spells.Mark d token') (m : Spells.Mark e between)
    (h : ∀ g ∈ groups, Scans g) :
    Scans (bracketed ⟨[c], token⟩ ⟨[d], token'⟩ ⟨[e], between⟩ groups) := by
  rw [Scans, map_bracketed, map_bracketed]
  refine Spells.bracketed start stop m ?_
  rw [List.forall₂_map_left_iff, List.forall₂_map_right_iff, List.forall₂_same]
  exact h

theorem Value.scans (v : Value) : Scans v.symbols := by
  induction v using symbols.induct
  case case1           => rw [symbols]; exact Spells.word scan_null
  case case2 b         => rw [symbols]; exact Spells.word (scan_boolean b)
  case case3 n         => rw [symbols]; exact .number n
  case case4 ls        => rw [symbols]; exact .text ls
  case case5 vs ih     =>
    rw [symbols]
    exact .bracketed .listStart .listEnd .comma (List.forall_mem_map.mpr ih)
  case case6 fields ih =>
    rw [symbols]
    refine .bracketed .objectStart .objectEnd .comma (List.forall_mem_map.mpr fun f mem => ?_)
    exact Spells.append (Scans.text f.1) (Spells.Mark.colon.opens _) (.mark .colon (ih f mem))

theorem Value.read_iff {v : Value} {text : List Char} (spaced : Spaced v.texts text)
    {c : Config Float} : read text = .ok c ↔ readTokens v.tokens = .ok c := by
  have scanned := v.scans text [] spaced nofun
  rw [List.append_nil, scan_nil, List.append_nil] at scanned
  rw [read_eq_ok_iff]
  exact scanned.readTokens_iff

end PointForce.Document
