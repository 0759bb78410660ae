import Mathlib.Data.List.Infix
import PointForce.Proofs.Document.Accepted
import PointForce.Proofs.Document.Continued
import PointForce.Proofs.Document.Written

-- A document ends with the bracket that closes it. The reader does not look at what comes behind,
-- so no document goes on as another one, and none is left when the end of one is cut off.

namespace PointForce

namespace Document

variable {ts rest : List Token} {token : Token}

section Steps

def Element.append (us : List Token) : Element → Element
  | next token rest => next token (rest ++ us)
  | done rest       => done (rest ++ us)

def Member.append (us : List Token) : Member → Member
  | next k rest => next k (rest ++ us)
  | done rest   => done (rest ++ us)

theorem element_more {first : Bool} {e : Element} (h : element first ts = .ok e)
    (us : List Token) : element first (ts ++ us) = .ok (e.append us) := by
  unfold element at h ⊢
  grind [Element.append]

theorem closeList_more (h : closeList ts = .ok rest) (us : List Token) :
    closeList (ts ++ us) = .ok (rest ++ us) := by
  unfold closeList at h
  split at h
  case h_2 => cases h; rfl
  all_goals cases h

theorem key_more {m : Member} (h : key ts = .ok m) (us : List Token) :
    key (ts ++ us) = .ok (m.append us) := by
  unfold key at h
  split at h
  case h_1 => cases h; rfl
  all_goals cases h

theorem member_first (goes_on : token ≠ .objectEnd) (ts : List Token) :
    member true (token :: ts) = key (token :: ts) := by
  cases token
  case objectEnd => exact absurd rfl goes_on
  all_goals rfl

theorem member_comma (goes_on : token ≠ .objectEnd) (ts : List Token) :
    member false (.comma :: token :: ts) = key (token :: ts) := by
  cases token
  case objectEnd => exact absurd rfl goes_on
  all_goals rfl

theorem member_more {first : Bool} {m : Member} (h : member first ts = .ok m)
    (us : List Token) : member first (ts ++ us) = .ok (m.append us) := by
  rcases ts with _ | ⟨token, ts⟩
  case nil  => cases h
  case cons =>
    by_cases last : token = .objectEnd
    case pos =>
      subst last
      cases h
      rfl
    case neg =>
      cases first
      case true =>
        rw [member_first last] at h
        rw [List.cons_append, member_first last]
        exact key_more h us
      case false =>
        cases token
        case comma =>
          rcases ts with _ | ⟨token, ts⟩
          case nil  => cases h
          case cons =>
            by_cases trailing : token = .objectEnd
            case pos => subst trailing; cases h
            case neg =>
              rw [member_comma trailing] at h
              rw [List.cons_append, List.cons_append, member_comma trailing]
              exact key_more h us
        case objectEnd => exact absurd rfl last
        all_goals cases h

theorem local_afterColon : Local afterColon := by
  intro ts rest token h us
  unfold afterColon at h
  split at h
  case h_1 => cases h; rfl
  all_goals cases h

end Steps

-- Where a single token is read, the tokens behind it matter for a fault only.
section Scalars

variable (us : List Token)

theorem readNumber_more {x : Float} (h : readNumber token ts = .ok x) :
    readNumber token us = .ok x := by
  unfold readNumber at h ⊢
  split at h
  case h_1 => exact h
  case h_2 => cases h

theorem readOptionalNumber_more {x : Option Float} (h : readOptionalNumber token ts = .ok x) :
    readOptionalNumber token us = .ok x := by
  unfold readOptionalNumber at h ⊢
  split at h
  case h_1 => exact h
  case h_2 =>
    have ⟨_, number, eq⟩ := map_eq_ok_iff.mp h
    exact map_eq_ok_iff.mpr ⟨_, readNumber_more us number, eq⟩

theorem readBoolean_more {b : Bool} (h : readBoolean token ts = .ok b) :
    readBoolean token us = .ok b := by
  unfold readBoolean at h ⊢
  split at h
  case h_1 => exact h
  case h_2 => cases h

theorem readIndex_more {n : Nat} (h : readIndex token ts = .ok n) :
    readIndex token us = .ok n := by
  unfold readIndex at h ⊢
  split at h
  case h_1 => exact h
  case h_2 => cases h
  case h_3 => cases h

end Scalars

section Reading

theorem local_readIndices (first : Bool) : Local (readIndices first) := by
  intro ts rest indices h us
  fun_induction readIndices first ts generalizing indices
  case case1 => cases h
  case case2 start =>
    cases h
    exact readIndices_done (element_more start us)
  case case3 start ih =>
    obtain ⟨_, index, h⟩   := bind_eq_ok_iff.mp h
    obtain ⟨_, further, h⟩ := bind_eq_ok_iff.mp h
    cases h
    rw [readIndices_of_next (element_more start us)]
    exact bind_eq_ok_iff.mpr ⟨_, readIndex_more _ index, bind_eq_ok_iff.mpr ⟨_, ih further, rfl⟩⟩

theorem local_readComponent (count : Nat) : Local (readComponent count) := by
  intro ts rest x h us
  have ⟨e, start, h⟩ := bind_eq_ok_iff.mp h
  refine bind_eq_ok_iff.mpr ⟨_, element_more start us, ?_⟩
  cases e
  case done => cases h
  case next =>
    have ⟨_, number, h⟩ := bind_eq_ok_iff.mp h
    cases h
    exact bind_eq_ok_iff.mpr ⟨_, readNumber_more _ number, rfl⟩

theorem local_readDirection : Local readDirection := by
  intro ts rest direction h us
  have ⟨_, x, h⟩     := bind_eq_ok_iff.mp h
  have ⟨_, y, h⟩     := bind_eq_ok_iff.mp h
  have ⟨_, z, h⟩     := bind_eq_ok_iff.mp h
  have ⟨_, close, h⟩ := bind_eq_ok_iff.mp h
  cases h
  refine bind_eq_ok_iff.mpr ⟨_, local_readComponent 0 x us, ?_⟩
  refine bind_eq_ok_iff.mpr ⟨_, local_readComponent 1 y us, ?_⟩
  refine bind_eq_ok_iff.mpr ⟨_, local_readComponent 2 z us, ?_⟩
  exact bind_eq_ok_iff.mpr ⟨_, closeList_more close us, rfl⟩

theorem local_readValue (p : Parameter) (c : Config Float) (token : Token) :
    Local (readValue p c token) := by
  intro ts rest c' h us
  unfold readValue at h ⊢
  split at h
  case h_1 =>
    have ⟨_, indices, h⟩ := bind_eq_ok_iff.mp h
    cases h
    exact bind_eq_ok_iff.mpr ⟨_, local_readIndices true indices us, rfl⟩
  case h_2 => cases h
  case h_3 =>
    have ⟨_, direction, h⟩ := bind_eq_ok_iff.mp h
    cases h
    exact bind_eq_ok_iff.mpr ⟨_, local_readDirection direction us, rfl⟩
  case h_4 => cases h
  all_goals
    have ⟨_, read, h⟩ := bind_eq_ok_iff.mp h
    cases h
  case h_10 => exact bind_eq_ok_iff.mpr ⟨_, readBoolean_more _ read, rfl⟩
  case h_11 => exact bind_eq_ok_iff.mpr ⟨_, readNumber_more _ read, rfl⟩
  all_goals exact bind_eq_ok_iff.mpr ⟨_, readOptionalNumber_more _ read, rfl⟩

theorem local_readPositional : ∀ (ps : List Parameter) (first : Bool) (c : Config Float),
    Local (readPositional ps first c)
  | [],      _,     _, _,  _, _, h, us => by
    have ⟨_, close, eq⟩ := map_eq_ok_iff.mp h
    cases eq
    exact map_eq_ok_iff.mpr ⟨_, closeList_more close us, rfl⟩
  | p :: ps, first, _, ts, _, _, h, us => by
    have ⟨e, start, h⟩ := bind_eq_ok_iff.mp h
    refine bind_eq_ok_iff.mpr ⟨_, element_more start us, ?_⟩
    cases e
    case done => cases h; rfl
    case next =>
      have ⟨_, value, h⟩ := bind_eq_ok_iff.mp h
      exact bind_eq_ok_iff.mpr
        ⟨_, local_readValue _ _ _ value us, local_readPositional ps false _ h us⟩

theorem ReadsMember.more {first : Bool} {p : Parameter} {c c' : Config Float}
    (h : ReadsMember first p c c' ts rest) (us : List Token) :
    ReadsMember first p c c' (ts ++ us) (rest ++ us) := by
  have ⟨_, _, _, start, colon, value⟩ := h
  exact ⟨_, _, _, member_more start us, local_afterColon colon us, local_readValue _ _ _ value us⟩

theorem local_readMembers (unmet : List Parameter) (first : Bool) (c : Config Float) :
    Local (readMembers unmet first c) := by
  intro ts rest c' h us
  induction unmet, first, c, ts using readMembers.induct
  case case1 ih =>
    refine readMembers_eq_ok_iff.mpr ?_
    rcases readMembers_eq_ok_iff.mp h with ⟨start, eq⟩ | ⟨p, unmet, _, _, next, later⟩
    case inl => exact .inl ⟨member_more start us, eq⟩
    case inr => exact .inr ⟨p, unmet, _, _, next.more us, ih p unmet _ _ later⟩

theorem local_readConfig : Local readConfig := by
  intro ts rest c h us
  unfold readConfig at h
  split at h
  case h_1 => cases h
  case h_2 => exact local_readPositional _ _ _ h us
  case h_3 => exact local_readMembers _ _ _ h us
  case h_4 => cases h

end Reading

section Closing

def Closed (ts rest : List Token) : Prop :=
  ∃ token : Token, token.Closes ∧ token :: rest <:+ ts

theorem Closed.of_closes (h : token.Closes) : Closed (token :: rest) rest :=
  ⟨token, h, List.suffix_rfl⟩

theorem Closed.behind {us : List Token} (passes : Passes Token.Sound ts us) (h : Closed us rest) :
    Closed ts rest := by
  have ⟨token, closes, last⟩ := h
  exact ⟨token, closes, last.trans passes.isSuffix⟩

theorem Closed.getLast? (h : Closed ts []) : ∀ t ∈ ts.getLast?, t.Closes := by
  obtain ⟨token, closes, front, rfl⟩ := h
  intro t last
  rw [List.getLast?_concat] at last
  cases last
  exact closes

theorem closed_element {first : Bool} (h : element first ts = .ok (.done rest)) :
    Closed ts rest := by
  unfold element at h
  split at h
  case h_1 => cases h
  case h_2 => cases h; exact .of_closes trivial
  case h_3 =>
    split_ifs at h
    case pos => cases h
    case neg =>
      split at h
      all_goals cases h

theorem closed_closeList (h : closeList ts = .ok rest) : Closed ts rest := by
  unfold closeList at h
  split at h
  case h_2 => cases h; exact .of_closes trivial
  all_goals cases h

theorem closed_readPositional {c' : Config Float} : ∀ {ps : List Parameter} {first : Bool}
    {c : Config Float} {ts : List Token}, readPositional ps first c ts = .ok (c', rest) →
    Closed ts rest
  | [],      _,     _, _,  h => by
    have ⟨_, close, eq⟩ := map_eq_ok_iff.mp h
    cases eq
    exact closed_closeList close
  | p :: ps, first, _, ts, h => by
    have ⟨e, start, h⟩ := bind_eq_ok_iff.mp h
    cases e
    case done => cases h; exact closed_element start
    case next =>
      have ⟨_, value, h⟩ := bind_eq_ok_iff.mp h
      exact (closed_readPositional h).behind ((passes_element start).trans (passes_readValue value))

theorem key_ne_done : key ts ≠ .ok (.done rest) := by
  unfold key
  split <;> exact nofun

theorem closed_member {first : Bool} (h : member first ts = .ok (.done rest)) :
    Closed ts rest := by
  unfold member at h
  split at h
  case h_1 => cases h
  case h_2 => cases h; exact .of_closes trivial
  case h_3 =>
    split_ifs at h
    case pos => exact absurd h key_ne_done
    case neg =>
      split at h
      case h_3 => exact absurd h key_ne_done
      all_goals cases h

theorem closed_readMembers {unmet : List Parameter} {first : Bool} {c c' : Config Float}
    (h : readMembers unmet first c ts = .ok (c', rest)) : Closed ts rest := by
  induction unmet, first, c, ts using readMembers.induct
  case case1 ih =>
    rcases readMembers_eq_ok_iff.mp h with ⟨start, _⟩ | ⟨p, unmet, _, _, next, later⟩
    case inl => exact closed_member start
    case inr => exact (ih p unmet _ _ later).behind next.passes

theorem closed_readConfig {c : Config Float} (h : readConfig ts = .ok (c, rest)) :
    Closed ts rest := by
  unfold readConfig at h
  split at h
  case h_1 => cases h
  case h_2 => exact (closed_readPositional h).behind (.one trivial _)
  case h_3 => exact (closed_readMembers h).behind (.one trivial _)
  case h_4 => cases h

end Closing

theorem read_append {p : List Char} {c d : Config Float} (h : Document.read p = .ok c)
    (s : List Char) : Document.read (p ++ s) = .ok d ↔ (∀ x ∈ s, isBlank x) ∧ d = c := by
  have tokens := read_eq_ok_iff.mp h
  have whole  := readTokens_eq_ok_iff.mp tokens
  have continued : scan (p ++ s) = scan p ++ scan s :=
    scan_append (sound_of_readTokens tokens) (closed_readConfig whole).getLast? s
  have read : readConfig (scan (p ++ s)) = .ok (c, scan s) := by
    rw [continued, local_readConfig whole]
    rfl
  rw [read_eq_ok_iff, readTokens_eq_ok_iff, read, ← scan_eq_nil_iff, Except.ok.injEq,
    Prod.mk.injEq, and_comm, eq_comm (a := d)]

end Document

namespace Config

open Document

-- So a text from whose end more than blanks was cut off is no document, and neither is a document
-- with more than blanks behind it.
theorem ofDocument_append {p s : List Char} :
    (∀ {c d : Config Float}, ofDocument p = .ok c →
      (ofDocument (p ++ s) = .ok d ↔ (∀ x ∈ s, isBlank x) ∧ c = d)) ∧
    ((∃ x ∈ s, ¬ isBlank x) →
      (∀ {c : Config Float}, ofDocument (p ++ s) = .ok c →
        ∃ l, ofDocument p = .error (.parse l)) ∧
      (∀ {c : Config Float}, ofDocument p = .ok c →
        ∃ l, ofDocument (p ++ s) = .error (.parse l))) := by
  constructor
  case left =>
    intro c d h
    have ⟨whole, valid⟩ := ofDocument_eq_ok_iff.mp h
    rw [ofDocument_eq_ok_iff, read_append whole]
    constructor
    case mp  => rintro ⟨⟨blank, rfl⟩, _⟩; exact ⟨blank, rfl⟩
    case mpr => rintro ⟨blank, rfl⟩; exact ⟨⟨blank, rfl⟩, valid⟩
  case right =>
    intro ⟨x, mem, solid⟩
    have apart {c d : Config Float} (h : Document.read p = .ok c) :
        Document.read (p ++ s) ≠ .ok d :=
      fun h' => solid (((read_append h s).mp h').left x mem)
    constructor
    case left =>
      exact fun h => exists_parse fun _ read => apart read (ofDocument_eq_ok_iff.mp h).left
    case right =>
      exact fun h => exists_parse fun _ => apart (ofDocument_eq_ok_iff.mp h).left

theorem ofDocument_append_shortText :
    (∃ c, ofDocument "[[2]]".toList = .ok c ∧ ofDocument "[[2]]\n".toList = .ok c) ∧
    (∃ l, ofDocument "[[2]] 0".toList = .error (.parse l)) ∧
    (∃ l, ofDocument "[[2]".toList = .error (.parse l)) := by
  have accepted : ofDocument "[[2]]".toList = .ok { unset with indices := [2] } :=
    toOption_ofDocument_eq_some_iff.mp (by decide +kernel)
  have blank   : ∀ x ∈ ['\n'], isBlank x        := List.forall_mem_singleton.mpr rfl
  have digit   : ∃ x ∈ [' ', '0'], ¬ isBlank x := ⟨'0', .tail _ (.head _), by decide⟩
  have bracket : ∃ x ∈ [']'], ¬ isBlank x      := ⟨']', .head _, by decide⟩
  exact ⟨⟨_, accepted, (ofDocument_append.left accepted).mpr ⟨blank, rfl⟩⟩,
    (ofDocument_append.right digit).right accepted, (ofDocument_append.right bracket).left accepted⟩

end Config
end PointForce
