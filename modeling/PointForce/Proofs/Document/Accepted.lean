import PointForce.Document.Config
import PointForce.Proofs.Document.Scanned

-- What the reader passes over. An accepted document has no broken token, and so no zero byte.

namespace PointForce.Document

variable {ts rest : List Token} {token : Token}

section Values

theorem sound_of_readNumber {x : Float} (h : readNumber token rest = .ok x) : token.Sound := by
  unfold readNumber at h
  split at h
  case h_1 => trivial
  case h_2 => cases h

theorem sound_of_readOptionalNumber {x : Option Float}
    (h : readOptionalNumber token rest = .ok x) : token.Sound := by
  unfold readOptionalNumber at h
  split at h
  case h_1 => trivial
  case h_2 =>
    have ⟨_, number, _⟩ := map_eq_ok_iff.mp h
    exact sound_of_readNumber number

theorem sound_of_readBoolean {b : Bool} (h : readBoolean token rest = .ok b) : token.Sound := by
  unfold readBoolean at h
  split at h
  case h_1 => trivial
  case h_2 => cases h

theorem sound_of_readIndex {n : Nat} (h : readIndex token rest = .ok n) : token.Sound := by
  unfold readIndex at h
  split at h
  case h_1 => trivial
  case h_2 => cases h
  case h_3 => cases h

end Values

def Element.tokens : Element → List Token
  | next token rest => token :: rest
  | done rest       => rest

theorem passes_element {first : Bool} {e : Element} (h : element first ts = .ok e) :
    Passes Token.Sound ts e.tokens := by
  unfold element at h
  split at h
  case h_1 => cases h
  case h_2 => cases h; exact .one trivial _
  case h_3 =>
    split_ifs at h
    case pos => cases h; exact .none _
    case neg =>
      split at h
      case h_1 => cases h
      case h_2 => cases h
      case h_3 => cases h; exact .one trivial _
      case h_4 => cases h

theorem passes_closeList (h : closeList ts = .ok rest) : Passes Token.Sound ts rest := by
  unfold closeList at h
  split at h
  case h_2 => cases h; exact .one trivial _
  all_goals cases h

theorem passes_readIndices {first : Bool} {indices : List Nat}
    (h : readIndices first ts = .ok (indices, rest)) : Passes Token.Sound ts rest := by
  fun_induction readIndices first ts generalizing indices
  case case1 => cases h
  case case2 start => cases h; exact passes_element start
  case case3 start ih =>
    have ⟨_, index, h⟩   := bind_eq_ok_iff.mp h
    have ⟨_, further, h⟩ := bind_eq_ok_iff.mp h
    cases h
    exact (passes_element start).trans (.cons (sound_of_readIndex index) (ih further))

theorem passes_readComponent {count : Nat} {x : Float}
    (h : readComponent count ts = .ok (x, rest)) : Passes Token.Sound ts rest := by
  have ⟨e, start, h⟩ := bind_eq_ok_iff.mp h
  cases e
  case done => cases h
  case next token after =>
    have ⟨_, number, h⟩ := bind_eq_ok_iff.mp h
    cases h
    exact (passes_element start).trans (.one (sound_of_readNumber number) _)

theorem passes_readDirection {direction : Vec3 Float}
    (h : readDirection ts = .ok (direction, rest)) : Passes Token.Sound ts rest := by
  have ⟨_, x, h⟩     := bind_eq_ok_iff.mp h
  have ⟨_, y, h⟩     := bind_eq_ok_iff.mp h
  have ⟨_, z, h⟩     := bind_eq_ok_iff.mp h
  have ⟨_, close, h⟩ := bind_eq_ok_iff.mp h
  cases h
  exact (passes_readComponent x).trans ((passes_readComponent y).trans
    ((passes_readComponent z).trans (passes_closeList close)))

theorem passes_readValue {p : Parameter} {c c' : Config Float}
    (h : readValue p c token ts = .ok (c', rest)) : Passes Token.Sound (token :: ts) rest := by
  unfold readValue at h
  split at h
  case h_1 =>
    have ⟨_, indices, h⟩ := bind_eq_ok_iff.mp h
    cases h
    exact .cons trivial (passes_readIndices indices)
  case h_2 => cases h
  case h_3 =>
    have ⟨_, direction, h⟩ := bind_eq_ok_iff.mp h
    cases h
    exact .cons trivial (passes_readDirection direction)
  case h_4 => cases h
  all_goals
    have ⟨_, read, h⟩ := bind_eq_ok_iff.mp h
    cases h
  case h_10 => exact .one (sound_of_readBoolean read) _
  case h_11 => exact .one (sound_of_readNumber read) _
  all_goals exact .one (sound_of_readOptionalNumber read) _

theorem passes_readPositional {c' : Config Float} : ∀ {ps : List Parameter} {first : Bool}
    {c : Config Float} {ts : List Token}, readPositional ps first c ts = .ok (c', rest) →
    Passes Token.Sound ts rest
  | [],      _,     _, _,  h => by
    have ⟨_, close, eq⟩ := map_eq_ok_iff.mp h
    cases eq
    exact passes_closeList close
  | p :: ps, first, _, ts, h => by
    have ⟨e, start, h⟩ := bind_eq_ok_iff.mp h
    cases e
    case done => cases h; exact passes_element start
    case next =>
      have ⟨_, value, h⟩ := bind_eq_ok_iff.mp h
      exact (passes_element start).trans
        ((passes_readValue value).trans (passes_readPositional h))

def Member.tokens : Member → List Token
  | next _ rest => rest
  | done rest   => rest

theorem passes_key {m : Member} (h : key ts = .ok m) : Passes Token.Sound ts m.tokens := by
  unfold key at h
  split at h
  case h_1 => cases h; exact .one trivial _
  case h_2 => cases h
  case h_3 => cases h

theorem passes_member {first : Bool} {m : Member} (h : member first ts = .ok m) :
    Passes Token.Sound ts m.tokens := by
  unfold member at h
  split at h
  case h_1 => cases h
  case h_2 => cases h; exact .one trivial _
  case h_3 =>
    split_ifs at h
    case pos => exact passes_key h
    case neg =>
      split at h
      case h_1 => cases h
      case h_2 => cases h
      case h_3 => exact .cons trivial (passes_key h)
      case h_4 => cases h

theorem passes_afterColon (h : afterColon ts = .ok (token, rest)) :
    Passes Token.Sound ts (token :: rest) := by
  unfold afterColon at h
  split at h
  case h_1 => cases h; exact .one trivial _
  all_goals cases h

def ReadsMember (first : Bool) (p : Parameter) (c c' : Config Float) (ts rest : List Token) :
    Prop :=
  ∃ after token behind, member first ts = .ok (.next p.key after) ∧
    afterColon after = .ok (token, behind) ∧ readValue p c token behind = .ok (c', rest)

theorem readMembers_eq_ok_iff {unmet : List Parameter} {first : Bool} {c c' : Config Float} :
    readMembers unmet first c ts = .ok (c', rest) ↔
      (member first ts = .ok (.done rest) ∧ c = c') ∨
      ∃ p ∈ unmet, ∃ c₁ ts₁, ReadsMember first p c c₁ ts ts₁ ∧
        readMembers (unmet.erase p) false c₁ ts₁ = .ok (c', rest) := by
  constructor
  case mp =>
    intro h
    rw [readMembers] at h
    obtain ⟨m, start, h⟩ := bind_eq_ok_iff.mp h
    cases m
    case done       => cases h; exact .inl ⟨start, rfl⟩
    case next k after =>
      dsimp only at h
      split at h
      case h_1 => cases h
      case h_2 p known =>
        split at h
        case isFalse => cases h
        case isTrue unmet =>
          obtain ⟨⟨token, behind⟩, colon, h⟩ := bind_eq_ok_iff.mp h
          obtain ⟨⟨c₁, ts₁⟩, value, h⟩      := bind_eq_ok_iff.mp h
          rw [← Parameter.ofKey?_eq_some_iff.mp known] at start
          exact .inr ⟨p, unmet, c₁, ts₁, ⟨after, token, behind, start, colon, value⟩, h⟩
  case mpr =>
    rintro (⟨start, rfl⟩ | ⟨p, unmet, c₁, ts₁, ⟨after, token, behind, start, colon, value⟩, h⟩)
    all_goals
      rw [readMembers]
      refine bind_eq_ok_iff.mpr ⟨_, start, ?_⟩
    case inl => rfl
    case inr =>
      have known : Parameter.ofKey? p.key = some p := Parameter.ofKey?_eq_some_iff.mpr rfl
      simp only [known, dif_pos unmet]
      exact bind_eq_ok_iff.mpr ⟨_, colon, bind_eq_ok_iff.mpr ⟨_, value, h⟩⟩

theorem ReadsMember.passes {first : Bool} {p : Parameter} {c c' : Config Float}
    (h : ReadsMember first p c c' ts rest) : Passes Token.Sound ts rest := by
  have ⟨_, _, _, start, colon, value⟩ := h
  exact (passes_member start).trans ((passes_afterColon colon).trans (passes_readValue value))

theorem passes_readMembers {unmet : List Parameter} {first : Bool} {c c' : Config Float}
    (h : readMembers unmet first c ts = .ok (c', rest)) : Passes Token.Sound ts rest := by
  induction unmet, first, c, ts using readMembers.induct
  case case1 ih =>
    rcases readMembers_eq_ok_iff.mp h with ⟨start, _⟩ | ⟨p, unmet, _, _, next, later⟩
    case inl => exact passes_member start
    case inr => exact next.passes.trans (ih p unmet _ _ later)

theorem passes_readConfig {c : Config Float} (h : readConfig ts = .ok (c, rest)) :
    Passes Token.Sound ts rest := by
  unfold readConfig at h
  split at h
  case h_1 => cases h
  case h_2 => exact .cons trivial (passes_readPositional h)
  case h_3 => exact .cons trivial (passes_readMembers h)
  case h_4 => cases h

theorem readTokens_eq_ok_iff {c : Config Float} :
    readTokens ts = .ok c ↔ readConfig ts = .ok (c, []) := by
  rw [readTokens, bind_eq_ok_iff]
  constructor
  case mp =>
    rintro ⟨⟨_, _ | _⟩, read, h⟩
    case nil  => cases h; exact read
    case cons => cases h
  case mpr => exact fun read => ⟨_, read, rfl⟩

theorem sound_of_readTokens {c : Config Float} (h : readTokens ts = .ok c) : ∀ t ∈ ts, t.Sound :=
  (passes_readConfig (readTokens_eq_ok_iff.mp h)).forall_mem nofun

end PointForce.Document

namespace PointForce

namespace Config

variable {text : List Char} {c : Config Float}

theorem ofDocument_eq_ok_iff : ofDocument text = .ok c ↔ Document.read text = .ok c ∧ c.Valid := by
  rw [ofDocument]
  cases Document.read text
  case error => exact ⟨nofun, nofun⟩
  case ok d  =>
    dsimp only
    split
    case h_1 fault invalid =>
      refine ⟨nofun, ?_⟩
      rintro ⟨⟨⟩, valid⟩
      cases invalid.symm.trans (fault?_eq_none_iff.mpr valid)
    case h_2 valid =>
      constructor
      case mp  => rintro ⟨⟩; exact ⟨rfl, fault?_eq_none_iff.mp valid⟩
      case mpr => rintro ⟨⟨⟩, _⟩; rfl

theorem toOption_ofDocument_eq_some_iff :
    (ofDocument text).toOption = some c ↔ ofDocument text = .ok c := by
  cases ofDocument text <;> simp [Except.toOption]

theorem exists_parse (refused : ∀ c, Document.read text ≠ .ok c) :
    ∃ l, ofDocument text = .error (.parse l) := by
  rw [ofDocument]
  cases read : Document.read text
  case error l => exact ⟨l, rfl⟩
  case ok c    => exact absurd read (refused c)

open Document in
theorem zero_not_mem_of_ofDocument (h : ofDocument text = .ok c) : '\x00' ∉ text := by
  have sound := sound_of_readTokens (read_eq_ok_iff.mp (ofDocument_eq_ok_iff.mp h).left)
  exact fun mem => nonZero_of_scan sound _ mem rfl

end Config
end PointForce
