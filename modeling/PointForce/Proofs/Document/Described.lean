import PointForce.Proofs.Document.Value
import PointForce.Proofs.Document.Written

-- Which configuration a document gives, told by the values that stand in it. It does not matter
-- where a value stands, only which parameter it belongs to.

namespace PointForce

namespace Config

variable {α : Type} {c d e : Config α} {p q : Parameter}

theorem SameOn.trans (h : c.SameOn d p) (h' : d.SameOn e p) : c.SameOn e p := by
  cases p <;> exact Eq.trans h h'

theorem sameOn_adopt_of_ne (source : Config α) (c : Config α) (ne : q ≠ p) :
    c.SameOn (source.adopt c p) q := by
  cases p <;> cases q <;> first | rfl | exact absurd rfl ne

theorem adopt_adopt (source c : Config α) (p : Parameter) :
    (source.adopt c p).adopt c p = source.adopt c p := by
  cases p <;> rfl

end Config

namespace Document

def Field.name? (f : Field) : Option String :=
  Letter.string? f.1

def Field.tokens (f : Field) : List Token :=
  f.name?.elim .stray .text :: .colon :: f.2.tokens

namespace Value

def number? : Value → Option Float
  | number n => n.numeral?.map Numeral.toFloat
  | _        => none

def optionalNumber? : Value → Option (Option Float)
  | null => some none
  | v    => v.number?.map some

def boolean? : Value → Option Bool
  | boolean b => some b
  | _         => none

def index? : Value → Option Nat
  | number n =>
    match n.numeral? with
    | some (.natural i) => some i
    | _                 => none
  | _ => none

def Means (v : Value) (c : Config Float) : Parameter → Prop
  | .indices           =>
    ∃ vs, v = list vs ∧ List.Forall₂ (fun v i => v.index? = some i) vs c.indices
  | .direction         =>
    ∃ x y z, v = list [x, y, z] ∧ x.number? = some c.direction.x ∧
      y.number? = some c.direction.y ∧ z.number? = some c.direction.z
  | .maxForce          => v.optionalNumber? = some c.maxForce
  | .minForce          => v.optionalNumber? = some c.minForce
  | .initForce         => v.optionalNumber? = some c.initForce
  | .maxForceVariation => v.optionalNumber? = some c.maxForceVariation
  | .penalty           => v.optionalNumber? = some c.penalty
  | .showForce         => v.boolean? = some c.showForce
  | .visuScale         => v.number? = some c.visuScale

theorem Means.of_sameOn {v : Value} {c d : Config Float} {p : Parameter} (h : v.Means c p)
    (same : c.SameOn d p) : v.Means d p := by
  cases p
  all_goals
    simp only [Means, Config.SameOn] at *
    exact same ▸ h

section Tokens

def head : Value → Token
  | null      => .null
  | boolean b => .boolean b
  | number n  => n.numeral?.elim .stray .number
  | text ls   => (Letter.string? ls).elim .stray .text
  | list _    => .listStart
  | object _  => .objectStart

def tail : Value → List Token
  | list vs       => separated .comma true (vs.map tokens) ++ [.listEnd]
  | object fields => separated .comma true (fields.map Field.tokens) ++ [.objectEnd]
  | _             => []

theorem tokens_eq (v : Value) : v.tokens = v.head :: v.tail := by
  cases v
  case list vs =>
    rw [tokens, symbols, map_bracketed, List.map_map]
    rfl
  case object fields =>
    rw [tokens, symbols, map_bracketed, List.map_map]
    rfl
  all_goals
    rw [tokens, symbols]
    rfl

theorem head_ne_listEnd (v : Value) : v.head ≠ .listEnd := by
  cases v
  case number n => cases h : n.numeral? <;> simp [head, h]
  case text ls  => cases h : Letter.string? ls <;> simp [head, h]
  all_goals rintro ⟨⟩

end Tokens

section Scalars

variable (v : Value) (ts : List Token)

theorem readNumber_head {x : Float} : readNumber v.head ts = .ok x ↔ v.number? = some x := by
  cases v
  case number n => cases h : n.numeral? <;> simp [head, number?, readNumber, h]
  case text ls  => cases h : Letter.string? ls <;> simp [head, number?, readNumber, h]
  all_goals simp [head, number?, readNumber]

theorem readOptionalNumber_head {x : Option Float} :
    readOptionalNumber v.head ts = .ok x ↔ v.optionalNumber? = some x := by
  cases v
  case number n =>
    cases h : n.numeral? <;>
      simp [head, optionalNumber?, number?, readOptionalNumber, readNumber, Except.map, h]
  case text ls =>
    cases h : Letter.string? ls <;>
      simp [head, optionalNumber?, number?, readOptionalNumber, readNumber, Except.map, h]
  all_goals
    simp [head, optionalNumber?, number?, readOptionalNumber, readNumber, Except.map]

theorem readBoolean_head {b : Bool} : readBoolean v.head ts = .ok b ↔ v.boolean? = some b := by
  cases v
  case number n => cases h : n.numeral? <;> simp [head, boolean?, readBoolean, h]
  case text ls  => cases h : Letter.string? ls <;> simp [head, boolean?, readBoolean, h]
  all_goals simp [head, boolean?, readBoolean]

theorem readIndex_head {i : Nat} : readIndex v.head ts = .ok i ↔ v.index? = some i := by
  cases v
  case number n =>
    rcases h : n.numeral? with _ | ⟨_ | _ | _⟩ <;> simp [head, index?, readIndex, h]
  case text ls  => cases h : Letter.string? ls <;> simp [head, index?, readIndex, h]
  all_goals simp [head, index?, readIndex]

end Scalars

section Tails

variable {v : Value}

theorem tail_of_number? {x : Float} (h : v.number? = some x) : v.tail = [] := by
  cases v <;> first | rfl | cases h

theorem tail_of_optionalNumber? {x : Option Float} (h : v.optionalNumber? = some x) :
    v.tail = [] := by
  cases v <;> first | rfl | cases h

theorem tail_of_boolean? {b : Bool} (h : v.boolean? = some b) : v.tail = [] := by
  cases v <;> first | rfl | cases h

theorem tail_of_index? {i : Nat} (h : v.index? = some i) : v.tail = [] := by
  cases v <;> first | rfl | cases h

end Tails

end Value

def elements (first : Bool) (vs : List Value) (rest : List Token) : List Token :=
  separated .comma first (vs.map Value.tokens) ++ .listEnd :: rest

section Lists

open Value

variable {first : Bool} {v : Value} {vs : List Value} {ts rest rest' : List Token}

theorem elements_cons (first : Bool) (v : Value) (vs : List Value) (rest : List Token) :
    elements first (v :: vs) rest =
      (if first then [] else [.comma]) ++ v.head :: (v.tail ++ elements false vs rest) := by
  rw [elements, List.map_cons, separated, tokens_eq, List.append_assoc, elements]
  cases first <;> rfl

theorem element_nil (first : Bool) (rest : List Token) :
    element first (elements first [] rest) = .ok (.done rest) :=
  rfl

theorem element_cons (first : Bool) (v : Value) (vs : List Value) (rest : List Token) :
    element first (elements first (v :: vs) rest) =
      .ok (.next v.head (v.tail ++ elements false vs rest)) := by
  have start := v.head_ne_listEnd
  rw [elements_cons]
  generalize v.head = token at *
  cases first <;> cases token <;> first | rfl | exact absurd rfl start

theorem closeList_eq_ok_iff : closeList ts = .ok rest ↔ ts = .listEnd :: rest := by
  unfold closeList
  split <;> simp_all

theorem closeList_elements :
    closeList (elements first vs rest) = .ok rest' ↔ vs = [] ∧ rest' = rest := by
  rw [closeList_eq_ok_iff]
  cases vs
  case nil       => simp [elements, separated, eq_comm]
  case cons v vs =>
    rw [elements_cons]
    cases first <;> simp [v.head_ne_listEnd]

theorem readIndices_elements {indices : List Nat} :
    readIndices first (elements first vs rest) = .ok (indices, rest') ↔
      List.Forall₂ (fun v i => v.index? = some i) vs indices ∧ rest' = rest := by
  induction vs generalizing first indices
  case nil =>
    rw [readIndices_done (element_nil ..)]
    simp [eq_comm]
  case cons v vs ih =>
    rw [readIndices_of_next (element_cons ..), bind_eq_ok_iff]
    constructor
    case mp =>
      intro ⟨i, index, h⟩
      have index := (readIndex_head _ _).mp index
      obtain ⟨⟨is, _⟩, further, eq⟩ := bind_eq_ok_iff.mp h
      cases eq
      rw [tail_of_index? index] at further
      have ⟨further, eq⟩ := ih.mp further
      exact ⟨.cons index further, eq⟩
    case mpr =>
      rintro ⟨_ | ⟨index, further⟩, rfl⟩
      refine ⟨_, (readIndex_head _ _).mpr index, ?_⟩
      rw [tail_of_index? index, List.nil_append, ih.mpr ⟨further, rfl⟩]
      rfl

theorem readComponent_elements {count : Nat} {x : Float} :
    readComponent count (elements (count = 0) vs rest) = .ok (x, rest') ↔
      ∃ v vs', vs = v :: vs' ∧ v.number? = some x ∧ rest' = elements false vs' rest := by
  rw [readComponent, bind_eq_ok_iff]
  cases vs
  case nil => simp [element_nil]
  case cons v vs =>
    simp only [element_cons, Except.ok.injEq, exists_eq_left', bind_eq_ok_iff, readNumber_head]
    constructor
    case mp =>
      rintro ⟨x, number, ⟨⟩⟩
      rw [tail_of_number? number]
      exact ⟨v, vs, rfl, number, rfl⟩
    case mpr =>
      rintro ⟨_, _, ⟨⟩, number, rfl⟩
      exact ⟨x, number, by rw [tail_of_number? number]; rfl⟩

theorem readDirection_elements {direction : Vec3 Float} :
    readDirection (elements true vs rest) = .ok (direction, rest') ↔
      (∃ x y z, vs = [x, y, z] ∧ x.number? = some direction.x ∧ y.number? = some direction.y ∧
        z.number? = some direction.z) ∧ rest' = rest := by
  rw [readDirection, bind_eq_ok_iff]
  constructor
  case mp =>
    intro ⟨⟨_, _⟩, first, h⟩
    obtain ⟨x, vs, rfl, hx, rfl⟩ := readComponent_elements.mp first
    obtain ⟨⟨_, _⟩, second, h⟩ := bind_eq_ok_iff.mp h
    obtain ⟨y, vs, rfl, hy, rfl⟩ := readComponent_elements.mp second
    obtain ⟨⟨_, _⟩, third, h⟩ := bind_eq_ok_iff.mp h
    obtain ⟨z, vs, rfl, hz, rfl⟩ := readComponent_elements.mp third
    obtain ⟨_, close, h⟩ := bind_eq_ok_iff.mp h
    obtain ⟨rfl, rfl⟩ := closeList_elements.mp close
    cases h
    exact ⟨⟨x, y, z, rfl, hx, hy, hz⟩, rfl⟩
  case mpr =>
    rintro ⟨⟨x, y, z, rfl, hx, hy, hz⟩, rfl⟩
    have component (count : Nat) {v : Value} {vs : List Value} {x : Float}
        (number : v.number? = some x) : readComponent count (elements (count = 0) (v :: vs) rest') =
          .ok (x, elements false vs rest') :=
      readComponent_elements.mpr ⟨v, vs, rfl, number, rfl⟩
    refine ⟨_, component 0 hx, bind_eq_ok_iff.mpr ⟨_, component 1 hy, ?_⟩⟩
    refine bind_eq_ok_iff.mpr ⟨_, component 2 hz, ?_⟩
    exact bind_eq_ok_iff.mpr ⟨_, closeList_elements.mpr ⟨rfl, rfl⟩, rfl⟩

end Lists

section Values

open Value

variable {c c₀ : Config Float} {p : Parameter} {v : Value} {rest rest' : List Token}

theorem exists_list_of_head (h : v.head = .listStart) : ∃ vs, v = list vs := by
  cases v
  case list vs  => exact ⟨vs, rfl⟩
  case number n => cases eq : n.numeral? <;> simp [head, eq] at h
  case text ls  => cases eq : Letter.string? ls <;> simp [head, eq] at h
  all_goals cases h

theorem readValue_indices {token : Token} {ts : List Token} :
    readValue .indices c₀ token ts = .ok (c, rest) ↔
      token = .listStart ∧ ∃ indices, readIndices true ts = .ok (indices, rest) ∧
        { c₀ with indices } = c := by
  cases token
  case listStart =>
    change (readIndices true ts >>= _) = _ ↔ _
    rw [bind_eq_ok_iff]
    constructor
    case mp  => rintro ⟨⟨indices, _⟩, read, ⟨⟩⟩; exact ⟨rfl, indices, read, rfl⟩
    case mpr => rintro ⟨_, indices, read, rfl⟩; exact ⟨_, read, rfl⟩
  all_goals exact ⟨nofun, nofun⟩

theorem readValue_direction {token : Token} {ts : List Token} :
    readValue .direction c₀ token ts = .ok (c, rest) ↔
      token = .listStart ∧ ∃ direction, readDirection ts = .ok (direction, rest) ∧
        { c₀ with direction } = c := by
  cases token
  case listStart =>
    change (readDirection ts >>= _) = _ ↔ _
    rw [bind_eq_ok_iff]
    constructor
    case mp  => rintro ⟨⟨direction, _⟩, read, ⟨⟩⟩; exact ⟨rfl, direction, read, rfl⟩
    case mpr => rintro ⟨_, direction, read, rfl⟩; exact ⟨_, read, rfl⟩
  all_goals exact ⟨nofun, nofun⟩

theorem bind_set_iff {β : Type} (get : Config Float → β) {set : β → Config Float}
    {read : Reading β} {value : Option β} {ts : List Token}
    (is_value : ∀ {x}, read = .ok x ↔ value = some x)
    (single : ∀ {x}, value = some x → ts = []) (get_set : ∀ x, get (set x) = x) :
    (read >>= fun x => .ok (set x, ts ++ rest)) = .ok (c, rest') ↔
      value = some (get c) ∧ c = set (get c) ∧ rest' = rest := by
  rw [bind_eq_ok_iff]
  constructor
  case mp =>
    rintro ⟨x, read, ⟨⟩⟩
    have value := is_value.mp read
    rw [get_set, single value]
    exact ⟨value, rfl, rfl⟩
  case mpr =>
    rintro ⟨value, eq, rfl⟩
    refine ⟨get c, is_value.mpr value, ?_⟩
    rw [← eq, single value]
    rfl

theorem tail_list (vs : List Value) (rest : List Token) :
    (list vs).tail ++ rest = elements true vs rest := by
  rw [tail, List.append_assoc]
  rfl

theorem readValue_head :
    readValue p c₀ v.head (v.tail ++ rest) = .ok (c, rest') ↔
      v.Means c p ∧ c = c.adopt c₀ p ∧ rest' = rest := by
  cases p
  case indices =>
    rw [readValue_indices]
    constructor
    case mp =>
      rintro ⟨start, indices, read, rfl⟩
      obtain ⟨vs, rfl⟩ := exists_list_of_head start
      rw [tail_list, readIndices_elements] at read
      exact ⟨⟨vs, rfl, read.left⟩, rfl, read.right⟩
    case mpr =>
      rintro ⟨⟨vs, rfl, means⟩, eq, rfl⟩
      rw [tail_list]
      exact ⟨rfl, c.indices, readIndices_elements.mpr ⟨means, rfl⟩, eq.symm⟩
  case direction =>
    rw [readValue_direction]
    constructor
    case mp =>
      rintro ⟨start, direction, read, rfl⟩
      obtain ⟨vs, rfl⟩ := exists_list_of_head start
      rw [tail_list, readDirection_elements] at read
      obtain ⟨⟨x, y, z, rfl, means⟩, eq⟩ := read
      exact ⟨⟨x, y, z, rfl, means⟩, rfl, eq⟩
    case mpr =>
      rintro ⟨⟨x, y, z, rfl, means⟩, eq, rfl⟩
      rw [tail_list]
      exact ⟨rfl, c.direction, readDirection_elements.mpr ⟨⟨x, y, z, rfl, means⟩, rfl⟩, eq.symm⟩
  case showForce =>
    exact bind_set_iff Config.showForce (readBoolean_head ..) tail_of_boolean? fun _ => rfl
  case visuScale =>
    exact bind_set_iff Config.visuScale (readNumber_head ..) tail_of_number? fun _ => rfl
  case maxForce =>
    exact bind_set_iff Config.maxForce (readOptionalNumber_head ..) tail_of_optionalNumber?
      fun _ => rfl
  case minForce =>
    exact bind_set_iff Config.minForce (readOptionalNumber_head ..) tail_of_optionalNumber?
      fun _ => rfl
  case initForce =>
    exact bind_set_iff Config.initForce (readOptionalNumber_head ..) tail_of_optionalNumber?
      fun _ => rfl
  case maxForceVariation =>
    exact bind_set_iff Config.maxForceVariation (readOptionalNumber_head ..)
      tail_of_optionalNumber? fun _ => rfl
  case penalty =>
    exact bind_set_iff Config.penalty (readOptionalNumber_head ..) tail_of_optionalNumber?
      fun _ => rfl

end Values

-- What the parameters are given, each at most once. The others stay as they were.
structure Assigns (c₀ c : Config Float) (given : List (Parameter × Value)) : Prop where
  once  : (given.map Prod.fst).Nodup
  means : ∀ a ∈ given, a.2.Means c a.1
  keeps : ∀ p ∉ given.map Prod.fst, c₀.SameOn c p

namespace Assigns

variable {c₀ c : Config Float} {p : Parameter} {v : Value} {given given' : List (Parameter × Value)}

theorem nil_iff : Assigns c₀ c [] ↔ c₀ = c where
  mp h  := Config.eq_of_sameOn fun p => h.keeps p List.not_mem_nil
  mpr h := ⟨.nil, nofun, fun p _ => h ▸ by cases p <;> rfl⟩

-- One assignment goes before the others, which do not touch its parameter.
theorem cons_iff :
    Assigns c₀ c ((p, v) :: given) ↔ p ∉ given.map Prod.fst ∧
      ∃ c₁, (v.Means c₁ p ∧ c₁ = c₁.adopt c₀ p) ∧ Assigns c₁ c given := by
  constructor
  case mp =>
    intro h
    have ⟨fresh, once⟩  := List.nodup_cons.mp h.once
    have ⟨means, later⟩ := List.forall_mem_cons.mp h.means
    have back : c.SameOn (c.adopt c₀ p) p := by cases p <;> rfl
    have own : (c.adopt c₀ p).SameOn c p := Config.sameOn_adopt_self c c₀ p
    have keeps : ∀ q ∉ given.map Prod.fst, (c.adopt c₀ p).SameOn c q := by
      intro q other
      by_cases eq : q = p
      case pos => exact eq ▸ own
      case neg =>
        have unset := h.keeps q (List.not_mem_cons_of_ne_of_not_mem eq other)
        exact Config.sameOn_adopt unset p
    exact ⟨fresh, c.adopt c₀ p, ⟨means.of_sameOn back, (Config.adopt_adopt ..).symm⟩,
      once, later, keeps⟩
  case mpr =>
    intro ⟨fresh, c₁, ⟨means, adopt⟩, h⟩
    refine ⟨List.nodup_cons.mpr ⟨fresh, h.once⟩, List.forall_mem_cons.mpr ⟨?_, h.means⟩, ?_⟩
    · exact means.of_sameOn (h.keeps p fresh)
    · intro q other
      have ⟨ne, other⟩ := List.ne_and_not_mem_of_not_mem_cons other
      have kept : c₀.SameOn c₁ q := adopt ▸ Config.sameOn_adopt_of_ne c₁ c₀ ne
      exact kept.trans (h.keeps q other)

theorem perm (h : Assigns c₀ c given) (order : given.Perm given') : Assigns c₀ c given' where
  once        := (order.map _).nodup_iff.mp h.once
  means a mem := h.means a (order.mem_iff.mpr mem)
  keeps p mem := h.keeps p fun mem' => mem ((order.map _).mem_iff.mp mem')

end Assigns

def members (first : Bool) (fields : List Field) (rest : List Token) : List Token :=
  separated .comma first (fields.map Field.tokens) ++ .objectEnd :: rest

section Layouts

open Value

variable {c c₀ : Config Float} {ps : List Parameter} {first : Bool} {rest rest' : List Token}

theorem readPositional_elements {vs : List Value} (once : ps.Nodup) :
    readPositional ps first c₀ (elements first vs rest) = .ok (c, rest') ↔
      vs.length ≤ ps.length ∧ Assigns c₀ c (ps.zip vs) ∧ rest' = rest := by
  induction ps generalizing first c₀ vs
  case nil =>
    rw [readPositional, map_eq_ok_iff, List.zip_nil_left, Assigns.nil_iff]
    simp only [closeList_elements]
    constructor
    case mp =>
      rintro ⟨_, ⟨rfl, rfl⟩, ⟨⟩⟩
      exact ⟨Nat.le_refl _, rfl, rfl⟩
    case mpr =>
      rintro ⟨le, rfl, rfl⟩
      exact ⟨_, ⟨List.eq_nil_of_length_eq_zero (Nat.le_zero.mp le), rfl⟩, rfl⟩
  case cons p ps ih =>
    have ⟨fresh, once⟩ := List.nodup_cons.mp once
    cases vs
    case nil =>
      rw [readPositional, element_nil, List.zip_nil_right, Assigns.nil_iff]
      simp [bind, Except.bind, eq_comm]
    case cons v vs =>
      have fresh : p ∉ (ps.zip vs).map Prod.fst := by
        intro mem
        obtain ⟨⟨_, w⟩, zipped, rfl⟩ := List.mem_map.mp mem
        exact fresh (List.of_mem_zip zipped).left
      rw [readPositional, element_cons, List.zip_cons_cons, Assigns.cons_iff, List.length_cons,
        List.length_cons, Nat.add_le_add_iff_right]
      change (readValue p c₀ v.head _ >>= _) = _ ↔ _
      rw [bind_eq_ok_iff]
      constructor
      case mp =>
        rintro ⟨⟨c₁, _⟩, value, h⟩
        obtain ⟨means, adopt, rfl⟩ := readValue_head.mp value
        have ⟨le, later, eq⟩ := (ih once).mp h
        exact ⟨le, ⟨fresh, c₁, ⟨means, adopt⟩, later⟩, eq⟩
      case mpr =>
        rintro ⟨le, ⟨_, c₁, ⟨means, adopt⟩, later⟩, eq⟩
        exact ⟨_, readValue_head.mpr ⟨means, adopt, rfl⟩, (ih once).mpr ⟨le, later, eq⟩⟩

theorem member_nil (first : Bool) (rest : List Token) :
    member first (members first [] rest) = .ok (.done rest) :=
  rfl

theorem member_cons (first : Bool) (f : Field) (fields : List Field) (rest : List Token) :
    member first (members first (f :: fields) rest) =
      key (f.name?.elim .stray .text :: .colon :: (f.2.tokens ++ members false fields rest)) := by
  rw [members, List.map_cons, separated, Field.tokens, List.append_assoc]
  cases first <;> cases f.name? <;> rfl

theorem readsMember_cons {f : Field} {fields : List Field} {p : Parameter} {ts : List Token} :
    ReadsMember first p c₀ c (members first (f :: fields) rest) ts ↔
      f.name? = some p.key ∧ (f.2.Means c p ∧ c = c.adopt c₀ p) ∧
        ts = members false fields rest := by
  have named {k : String} (name : f.name? = some k) :
      member first (members first (f :: fields) rest) =
        .ok (.next k (.colon :: f.2.head :: (f.2.tail ++ members false fields rest))) := by
    rw [member_cons, name, tokens_eq]
    rfl
  constructor
  case mp =>
    intro ⟨after, token, behind, start, colon, value⟩
    cases name : f.name?
    case none =>
      rw [member_cons, name] at start
      cases start
    case some k =>
      cases (named name).symm.trans start
      cases colon
      have ⟨means, adopt, eq⟩ := readValue_head.mp value
      exact ⟨rfl, ⟨means, adopt⟩, eq⟩
  case mpr =>
    rintro ⟨name, ⟨means, adopt⟩, rfl⟩
    exact ⟨_, _, _, named name, rfl, readValue_head.mpr ⟨means, adopt, rfl⟩⟩

theorem readMembers_cons {f : Field} {fields : List Field} :
    readMembers ps first c₀ (members first (f :: fields) rest) = .ok (c, rest') ↔
      ∃ p ∈ ps, f.name? = some p.key ∧ ∃ c₁, (f.2.Means c₁ p ∧ c₁ = c₁.adopt c₀ p) ∧
        readMembers (ps.erase p) false c₁ (members false fields rest) = .ok (c, rest') := by
  have goes_on : member first (members first (f :: fields) rest) ≠ .ok (.done rest') := by
    rw [member_cons]
    cases f.name? <;> exact nofun
  rw [readMembers_eq_ok_iff, or_iff_right fun h => goes_on h.left]
  simp only [readsMember_cons, and_assoc, exists_and_left, exists_eq_left]

def Names (fields : List (Option String × Value)) (given : List (Parameter × Value)) : Prop :=
  List.Forall₂ (fun f a => f = (some a.1.key, a.2)) fields given

def Field.entry (f : Field) : Option String × Value :=
  (f.name?, f.2)

theorem readMembers_members {fields : List Field} (once : ps.Nodup) :
    readMembers ps first c₀ (members first fields rest) = .ok (c, rest') ↔
      ∃ given, Names (fields.map Field.entry) given ∧ (∀ a ∈ given, a.1 ∈ ps) ∧
        Assigns c₀ c given ∧ rest' = rest := by
  induction fields generalizing ps first c₀
  case nil =>
    rw [readMembers_done (member_nil ..)]
    constructor
    case mp =>
      rintro ⟨⟩
      exact ⟨[], .nil, nofun, Assigns.nil_iff.mpr rfl, rfl⟩
    case mpr =>
      rintro ⟨_, ⟨⟩, _, assigns, rfl⟩
      rw [Assigns.nil_iff.mp assigns]
  case cons f fields ih =>
    rw [readMembers_cons]
    constructor
    case mp =>
      rintro ⟨p, unmet, name, c₁, first, later⟩
      obtain ⟨given, names, left, assigns, eq⟩ := (ih (once.erase p)).mp later
      have fresh : p ∉ given.map Prod.fst := by
        intro mem
        obtain ⟨a, later, eq⟩ := List.mem_map.mp mem
        exact (once.mem_erase_iff.mp (left a later)).left eq
      have left : ∀ a ∈ (p, f.2) :: given, a.1 ∈ ps :=
        List.forall_mem_cons.mpr ⟨unmet, fun a mem => List.mem_of_mem_erase (left a mem)⟩
      have entry : f.entry = (some p.key, f.2) := Prod.ext name rfl
      exact ⟨(p, f.2) :: given, .cons entry names, left,
        Assigns.cons_iff.mpr ⟨fresh, c₁, first, assigns⟩, eq⟩
    case mpr =>
      rintro ⟨_ | ⟨⟨p, v⟩, given⟩, names, left, assigns, eq⟩
      case nil  => cases names
      case cons =>
        cases names
        case cons entry names =>
        have ⟨name, value⟩ := Prod.mk.inj entry
        have ⟨unmet, left⟩ := List.forall_mem_cons.mp left
        have ⟨fresh, c₁, first, assigns⟩ := Assigns.cons_iff.mp assigns
        have left : ∀ a ∈ given, a.1 ∈ ps.erase p := by
          intro a mem
          refine once.mem_erase_iff.mpr ⟨?_, left a mem⟩
          exact fun eq => fresh (eq ▸ List.mem_map_of_mem mem)
        exact ⟨p, unmet, name, c₁, value ▸ first,
          (ih (once.erase p)).mpr ⟨given, names, left, assigns, eq⟩⟩

theorem readTokens_object {fields : List Field} :
    readTokens (object fields).tokens = .ok c ↔
      ∃ given, Names (fields.map Field.entry) given ∧ Assigns .unset c given := by
  rw [readTokens_eq_ok_iff, tokens_eq]
  change readMembers Parameter.all true .unset (members true fields []) = _ ↔ _
  rw [readMembers_members Parameter.nodup_all]
  simp [Parameter.mem_all]

theorem readTokens_list {vs : List Value} :
    readTokens (list vs).tokens = .ok c ↔
      vs.length ≤ Parameter.all.length ∧ Assigns .unset c (Parameter.all.zip vs) := by
  rw [readTokens_eq_ok_iff, tokens_eq]
  change readPositional Parameter.all true .unset (elements true vs []) = _ ↔ _
  rw [readPositional_elements Parameter.nodup_all]
  simp

end Layouts

end Document
end PointForce
