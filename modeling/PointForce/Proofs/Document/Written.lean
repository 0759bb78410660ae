import PointForce.Proofs.Document.Accepted
import PointForce.Proofs.Document.Spelling

-- A document that gives a configuration member by member is read as that configuration, in whatever
-- order the members stand, and whether what is unset is left out or written down.

namespace PointForce

namespace Config

section Adopt

variable {α : Type} {c source : Config α} {p q : Parameter}

def SameOn (c d : Config α) : Parameter → Prop
  | .indices           => c.indices = d.indices
  | .direction         => c.direction = d.direction
  | .maxForce          => c.maxForce = d.maxForce
  | .minForce          => c.minForce = d.minForce
  | .initForce         => c.initForce = d.initForce
  | .maxForceVariation => c.maxForceVariation = d.maxForceVariation
  | .penalty           => c.penalty = d.penalty
  | .showForce         => c.showForce = d.showForce
  | .visuScale         => c.visuScale = d.visuScale

theorem eq_of_sameOn (h : ∀ p, c.SameOn source p) : c = source :=
  Config.ext (h .indices) (h .direction) (h .maxForce) (h .minForce) (h .initForce)
    (h .maxForceVariation) (h .penalty) (h .showForce) (h .visuScale)

def adopt (source c : Config α) : Parameter → Config α
  | .indices           => { c with indices           := source.indices }
  | .direction         => { c with direction         := source.direction }
  | .maxForce          => { c with maxForce          := source.maxForce }
  | .minForce          => { c with minForce          := source.minForce }
  | .initForce         => { c with initForce         := source.initForce }
  | .maxForceVariation => { c with maxForceVariation := source.maxForceVariation }
  | .penalty           => { c with penalty           := source.penalty }
  | .showForce         => { c with showForce         := source.showForce }
  | .visuScale         => { c with visuScale         := source.visuScale }

theorem sameOn_adopt_self (source c : Config α) (p : Parameter) :
    (source.adopt c p).SameOn source p := by
  cases p <;> rfl

theorem sameOn_adopt (h : c.SameOn source q) (p : Parameter) :
    (source.adopt c p).SameOn source q := by
  cases p <;> cases q <;> first | exact h | rfl

theorem sameOn_foldl_adopt {ps : List Parameter} (h : q ∈ ps ∨ c.SameOn source q) :
    (ps.foldl source.adopt c).SameOn source q := by
  induction ps generalizing c
  case nil => exact h.resolve_left List.not_mem_nil
  case cons p ps ih =>
    refine ih ?_
    rcases h with mem | same
    case inr => exact .inr (sameOn_adopt same p)
    case inl =>
      cases mem
      case head      => exact .inr (sameOn_adopt_self source c q)
      case tail mem  => exact .inl mem

end Adopt

end Config

namespace Document

inductive Entry
  | null
  | boolean (b : Bool)
  | integer (z : Int)
  | list (zs : List Int)

def integerTokens (z : Int) : List Token :=
  [.number (.ofInt z)]

namespace Entry

def texts : Entry → List (List Char)
  | null      => ["null".toList]
  | boolean b => [(toString b).toList]
  | integer z => [(toString z).toList]
  | list zs   => bracketed ['['] [']'] [','] (zs.map fun z => [(toString z).toList])

def tokens : Entry → List Token
  | null      => [.null]
  | boolean b => [.boolean b]
  | integer z => integerTokens z
  | list zs   => bracketed .listStart .listEnd .comma (zs.map integerTokens)

def integers : Entry → List Int
  | integer z => [z]
  | list zs   => zs
  | _         => []

end Entry

def Whole (z : Int) (x : Float) : Prop :=
  z.natAbs ≤ 0x20000000000000 ∧ x = Float.ofInt z

inductive GivesOptional : Option Float → Entry → Prop
  | unset : GivesOptional none .null
  | set {z : Int} {x : Float} : Whole z x → GivesOptional (some x) (.integer z)

inductive Gives (c : Config Float) : Parameter → Entry → Prop
  | indices :
    (∀ i ∈ c.indices, i < 0x10000000000000000) → Gives c .indices (.list (c.indices.map Int.ofNat))
  | direction {x y z : Int} :
    Whole x c.direction.x → Whole y c.direction.y → Whole z c.direction.z →
    Gives c .direction (.list [x, y, z])
  | maxForce {e : Entry} : GivesOptional c.maxForce e → Gives c .maxForce e
  | minForce {e : Entry} : GivesOptional c.minForce e → Gives c .minForce e
  | initForce {e : Entry} : GivesOptional c.initForce e → Gives c .initForce e
  | maxForceVariation {e : Entry} :
    GivesOptional c.maxForceVariation e → Gives c .maxForceVariation e
  | penalty {e : Entry} : GivesOptional c.penalty e → Gives c .penalty e
  | showForce : Gives c .showForce (.boolean c.showForce)
  | visuScale {z : Int} : Whole z c.visuScale → Gives c .visuScale (.integer z)

structure Item where
  parameter : Parameter
  key       : List Char
  value     : Entry

namespace Item

def texts (i : Item) : List (List Char) :=
  quoted i.key :: [':'] :: i.value.texts

def tokens (i : Item) : List Token :=
  .text i.parameter.key :: .colon :: i.value.tokens

end Item

-- Each parameter is given at most once, and what is not given is unset.
structure Lists (c : Config Float) (items : List Item) : Prop where
  once    : (items.map Item.parameter).Nodup
  keyed   : ∀ i ∈ items, Written i.parameter.key.toList i.key
  given   : ∀ i ∈ items, Gives c i.parameter i.value
  omitted : ∀ p, p ∉ items.map Item.parameter → Config.unset.SameOn c p

def objectTexts (items : List Item) : List (List Char) :=
  bracketed ['\x7b'] ['\x7d'] [','] (items.map Item.texts)

def objectTokens (items : List Item) : List Token :=
  bracketed .objectStart .objectEnd .comma (items.map Item.tokens)

section Scanning

def Fits (z : Int) : Prop :=
  -0x8000000000000000 ≤ z ∧ z < 0x10000000000000000

theorem Whole.fits {z : Int} {x : Float} (h : Whole z x) : Fits z := by
  have := h.left
  rw [Fits]
  omega

theorem GivesOptional.fits {x : Option Float} {e : Entry} (h : GivesOptional x e) :
    ∀ z ∈ e.integers, Fits z := by
  cases h
  case unset => exact nofun
  case set h => exact List.forall_mem_singleton.mpr h.fits

theorem Gives.fits {c : Config Float} {p : Parameter} {e : Entry} (h : Gives c p e) :
    ∀ z ∈ e.integers, Fits z := by
  cases h
  case indices small =>
    intro z mem
    obtain ⟨i, known, rfl⟩ := List.mem_map.mp mem
    have nonneg : 0 ≤ Int.ofNat i := Int.natCast_nonneg i
    exact ⟨Int.le_trans (by decide) nonneg, Int.ofNat_lt.mpr (small i known)⟩
  case direction x y z => simp [Entry.integers, x.fits, y.fits, z.fits]
  case showForce       => exact nofun
  case visuScale h     => exact List.forall_mem_singleton.mpr h.fits
  all_goals exact GivesOptional.fits ‹_›

theorem spells_integer {z : Int} (h : Fits z) :
    Spells [(toString z).toList] (integerTokens z) :=
  .one fun _ ends => .inl (scan_integer h.left h.right ends)

theorem Entry.spells {e : Entry} (fits : ∀ z ∈ e.integers, Fits z) : Spells e.texts e.tokens := by
  cases e
  case null      => exact .word scan_null
  case boolean b => exact .word (scan_boolean b)
  case integer z => exact spells_integer (List.forall_mem_singleton.mp fits)
  case list zs =>
    refine .bracketed .listStart .listEnd .comma ?_
    rw [List.forall₂_map_left_iff, List.forall₂_map_right_iff, List.forall₂_same]
    exact fun z mem => spells_integer (fits z mem)

theorem Lists.spells {c : Config Float} {items : List Item} (lists : Lists c items) :
    Spells (objectTexts items) (objectTokens items) := by
  refine .bracketed .objectStart .objectEnd .comma ?_
  rw [List.forall₂_map_left_iff, List.forall₂_map_right_iff, List.forall₂_same]
  intro i mem
  have value : Spells i.value.texts i.value.tokens := Entry.spells (lists.given i mem).fits
  exact .cons (scan_quoted (lists.keyed i mem)) (.mark .colon value)

end Scanning

section Reading

variable {c : Config Float} {p : Parameter} {e : Entry}

theorem Whole.toFloat {z : Int} {x : Float} (h : Whole z x) : (Numeral.ofInt z).toFloat = x :=
  (Numeral.toFloat_ofInt z).trans h.right.symm

theorem GivesOptional.read {x : Option Float} (h : GivesOptional x e) :
    ∃ token, e.tokens = [token] ∧ ∀ rest, readOptionalNumber token rest = .ok x := by
  cases h
  case unset => exact ⟨.null, rfl, fun _ => rfl⟩
  case set h => exact ⟨_, rfl, fun _ => congrArg (Except.ok ∘ some) h.toFloat⟩

theorem readIndices_done {first : Bool} {ts rest : List Token}
    (h : element first ts = .ok (.done rest)) : readIndices first ts = .ok ([], rest) := by
  rw [readIndices]
  split
  case h_1 eq => cases eq.symm.trans h
  case h_2 eq => cases eq.symm.trans h; rfl
  case h_3 eq => cases eq.symm.trans h

theorem readIndices_of_next {first : Bool} {ts rest : List Token} {token : Token}
    (h : element first ts = .ok (.next token rest)) :
    readIndices first ts = (do
      let index           ← readIndex token rest
      let (indices, rest) ← readIndices false rest
      .ok (index :: indices, rest)) := by
  rw [readIndices]
  split
  case h_1 eq => cases eq.symm.trans h
  case h_2 eq => cases eq.symm.trans h
  case h_3 eq => cases eq.symm.trans h; rfl

theorem readIndices_next {first : Bool} {ts later rest : List Token} {i : Nat} {indices : List Nat}
    (h : element first ts = .ok (.next (.number (.natural i)) later))
    (ih : readIndices false later = .ok (indices, rest)) :
    readIndices first ts = .ok (i :: indices, rest) := by
  rw [readIndices_of_next h]
  simp only [readIndex, ih, bind, Except.bind]

theorem readIndices_separated (rest : List Token) : ∀ (first : Bool) (indices : List Nat),
    readIndices first
        (separated .comma first ((indices.map Int.ofNat).map integerTokens) ++ .listEnd :: rest) =
      .ok (indices, rest)
  | _,     []           => readIndices_done rfl
  | true,  _ :: indices => readIndices_next rfl (readIndices_separated rest false indices)
  | false, _ :: indices => readIndices_next rfl (readIndices_separated rest false indices)

theorem readDirection_separated (x y z : Int) (rest : List Token) :
    readDirection (separated .comma true ([x, y, z].map integerTokens) ++ .listEnd :: rest) =
      .ok (⟨Float.ofInt x, Float.ofInt y, Float.ofInt z⟩, rest) := by
  simp only [← Numeral.toFloat_ofInt]
  rfl

theorem Gives.read (h : Gives c p e) :
    ∃ token tokens, e.tokens = token :: tokens ∧ ∀ (c₀ : Config Float) (rest : List Token),
      readValue p c₀ token (tokens ++ rest) = .ok (c.adopt c₀ p, rest) := by
  cases h
  case indices =>
    refine ⟨_, _, rfl, fun c₀ rest => ?_⟩
    rw [List.append_assoc, List.singleton_append]
    simp only [readValue, readIndices_separated, bind, Except.bind, Config.adopt]
  case direction hx hy hz =>
    refine ⟨_, _, rfl, fun c₀ rest => ?_⟩
    rw [List.append_assoc, List.singleton_append]
    simp only [readValue, readDirection_separated, ← hx.right, ← hy.right, ← hz.right, bind,
      Except.bind, Config.adopt]
  case showForce => exact ⟨_, _, rfl, fun _ _ => rfl⟩
  case visuScale h =>
    refine ⟨_, _, rfl, fun c₀ rest => ?_⟩
    rw [Config.adopt, ← h.toFloat]
    rfl
  all_goals
    obtain ⟨token, tokens, read⟩ := GivesOptional.read ‹_›
    refine ⟨token, [], tokens, fun c₀ rest => ?_⟩
    simp only [readValue, List.nil_append, read]
    rfl

variable {ps : List Parameter} {items : List Item} {first : Bool} {ts rest : List Token}

theorem readMembers_done (h : member first ts = .ok (.done rest)) (c₀ : Config Float) :
    readMembers ps first c₀ ts = .ok (c₀, rest) := by
  rw [readMembers, h]
  rfl

theorem readMembers_next {i : Item} (given : Gives c i.parameter i.value) (unmet : i.parameter ∈ ps)
    (h : member first ts = .ok (.next i.parameter.key (.colon :: (i.value.tokens ++ rest))))
    (c₀ : Config Float) :
    readMembers ps first c₀ ts =
      readMembers (ps.erase i.parameter) false (c.adopt c₀ i.parameter) rest := by
  have known : Parameter.ofKey? i.parameter.key = some i.parameter :=
    Parameter.ofKey?_eq_some_iff.mpr rfl
  obtain ⟨token, tokens, eq, read⟩ := given.read
  rw [readMembers, h, eq]
  simp only [bind, Except.bind, known, dif_pos unmet, afterColon, List.cons_append, read]

-- The parameters to come are always among those that were not met.
theorem readMembers_separated (given : ∀ i ∈ items, Gives c i.parameter i.value)
    (unmet : ∀ i ∈ items, i.parameter ∈ ps) (once : (items.map Item.parameter).Nodup)
    (c₀ : Config Float) :
    readMembers ps first c₀
        (separated .comma first (items.map Item.tokens) ++ .objectEnd :: rest) =
      .ok ((items.map Item.parameter).foldl c.adopt c₀, rest) := by
  induction items generalizing ps first c₀
  case nil => exact readMembers_done rfl c₀
  case cons i items ih =>
    have ⟨give, given⟩ := List.forall_mem_cons.mp given
    have ⟨met, unmet⟩  := List.forall_mem_cons.mp unmet
    have ⟨fresh, once⟩ := List.nodup_cons.mp once
    have left (j : Item) (mem : j ∈ items) : j.parameter ∈ ps.erase i.parameter := by
      refine (List.mem_erase_of_ne fun eq => fresh ?_).mpr (unmet j mem)
      exact eq ▸ List.mem_map_of_mem mem
    have start : member first
        (separated .comma first ((i :: items).map Item.tokens) ++ .objectEnd :: rest) =
      .ok (.next i.parameter.key (.colon :: (i.value.tokens ++
        (separated .comma false (items.map Item.tokens) ++ .objectEnd :: rest)))) := by
      rw [List.map_cons, separated, List.append_assoc]
      cases first <;> rfl
    exact (readMembers_next give met start c₀).trans (ih given left once _)

theorem Lists.foldl_adopt (lists : Lists c items) :
    (items.map Item.parameter).foldl c.adopt .unset = c := by
  refine Config.eq_of_sameOn fun p => Config.sameOn_foldl_adopt ?_
  by_cases mem : p ∈ items.map Item.parameter
  case pos => exact .inl mem
  case neg => exact .inr (lists.omitted p mem)

theorem Lists.readTokens (lists : Lists c items) : readTokens (objectTokens items) = .ok c := by
  have read : readMembers Parameter.all true .unset
      (separated .comma true (items.map Item.tokens) ++ [.objectEnd]) = .ok (c, []) := by
    rw [readMembers_separated lists.given (fun i _ => i.parameter.mem_all) lists.once,
      lists.foldl_adopt]
  change (readMembers _ _ _ _ >>= _) = _
  rw [read]
  rfl

theorem Lists.scan_eq (lists : Lists c items) {text : List Char}
    (spaced : Spaced (objectTexts items) text) : scan text = objectTokens items := by
  have scanned := lists.spells text [] spaced nofun
  rw [List.append_nil, scan_nil, List.append_nil] at scanned
  exact scanned.eq_of_sound (sound_of_readTokens lists.readTokens)

end Reading

end Document

open Document in
theorem Config.ofDocument_of_spaced {c : Config Float} (valid : c.Valid) {items : List Item}
    (lists : Lists c items) {text : List Char} (spaced : Spaced (objectTexts items) text) :
    Config.ofDocument text = .ok c := by
  have read : Document.read text = .ok c := by
    rw [read_eq_ok_iff, lists.scan_eq spaced, lists.readTokens]
  rw [Config.ofDocument, read]
  simp only [Config.fault?_eq_none_iff.mpr valid]

namespace Document

-- With the largest index, the largest whole numbers, an escape in a key, and a scale by default.
def sampleConfig : Config Float where
  indices           := [18446744073709551615, 0, 7]
  direction         := ⟨0, -3, 9007199254740992⟩
  maxForce          := some 25
  minForce          := some (-9007199254740992)
  initForce         := none
  maxForceVariation := none
  penalty           := some 0
  showForce         := true
  visuScale         := 0.1

def sampleItems : List Item := [
  ⟨.showForce, "showForce".toList, .boolean true⟩,
  ⟨.minForce, "minForce".toList, .integer (-9007199254740992)⟩,
  ⟨.maxForce, "m\\u0061xForce".toList, .integer 25⟩,
  ⟨.initForce, "initForce".toList, .null⟩,
  ⟨.indices, "indices".toList, .list [18446744073709551615, 0, 7]⟩,
  ⟨.penalty, "penalty".toList, .integer 0⟩,
  ⟨.direction, "direction".toList, .list [0, -3, 9007199254740992]⟩]

def sampleText : List Char :=
  " \x7b \"showForce\" : true , \"minForce\" : -9007199254740992 ,".toList ++
  " \"m\\u0061xForce\" : 25 , \"initForce\" : null ,".toList ++
  " \"indices\" : [ 18446744073709551615 , 0 , 7 ] , \"penalty\" : 0 ,".toList ++
  " \"direction\" : [ 0 , -3 , 9007199254740992 ] \x7d ".toList

theorem spaced_sampleText : Spaced (objectTexts sampleItems) sampleText := by
  have text : sampleText = (objectTexts sampleItems).flatMap ([' '] ++ ·) ++ [' '] := by
    decide +kernel
  rw [text]
  exact .uniform (List.forall_mem_singleton.mpr rfl) _

theorem lists_sampleItems : Lists sampleConfig sampleItems where
  once    := by decide
  keyed   := by
    have plain (p : Parameter) : Written p.key.toList p.key.toList := by
      cases p <;> exact .refl rfl
    simp only [sampleItems, List.forall_mem_cons]
    refine ⟨plain .showForce, plain .minForce, ?_, plain .initForce, plain .indices,
      plain .penalty, plain .direction, nofun⟩
    have four : "0061".toList.length = 4 := rfl
    exact .plain rfl (.numbered four rfl (.refl rfl))
  given   := by
    simp only [sampleItems, List.forall_mem_cons]
    refine ⟨.showForce, .minForce (.set ?_), .maxForce (.set ?_), .initForce .unset,
      .indices (by decide), .penalty (.set ?_), .direction ?_ ?_ ?_, nofun⟩
    all_goals exact ⟨by decide, by decide +kernel⟩
  omitted := by
    intro p fresh
    cases p
    case maxForceVariation => rfl
    case visuScale         => rfl
    all_goals exact absurd (by decide) fresh

end Document

open Document in
theorem Config.ofDocument_of_sampleText :
    sampleConfig.Valid ∧ Lists sampleConfig sampleItems ∧
      Spaced (objectTexts sampleItems) sampleText ∧
      Config.ofDocument sampleText = .ok sampleConfig := by
  have valid : sampleConfig.Valid := by decide +kernel
  exact ⟨valid, lists_sampleItems, spaced_sampleText,
    Config.ofDocument_of_spaced valid lists_sampleItems spaced_sampleText⟩

end PointForce
