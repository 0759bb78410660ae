import Mathlib.Data.List.Nodup
import Mathlib.Data.List.Perm.Basic
import PointForce.Proofs.Document.Described

-- What a document says does not depend on where it says it. But all that it says is looked at: no
-- key is passed over because it is none of a parameter, or because it was there before.

namespace PointForce

namespace Document

variable {fields fields' : List Field} {given given' : List (Parameter × Value)}
  {named named' : List (Option String × Value)} {vs : List Value} {c : Config Float}

namespace Names

theorem perm (h : Names named given) (order : named.Perm named') :
    ∃ given', Names named' given' ∧ given.Perm given' := by
  have ⟨given', order', names⟩ := List.perm_comp_forall₂ order.symm h
  exact ⟨given', order', names.symm⟩

theorem unique (h : Names named given) (h' : Names named given') : given = given' := by
  induction h generalizing given'
  case nil => cases h'; rfl
  case cons entry _ ih =>
    cases h'
    case cons entry' names =>
      have ⟨key, value⟩ := Prod.mk.inj (entry.symm.trans entry')
      rw [ih names, Prod.ext (Parameter.key_injective (Option.some.inj key)) value]

theorem map_fst (h : Names named given) :
    named.map Prod.fst = (given.map Prod.fst).map fun p => some p.key := by
  induction h
  case nil => rfl
  case cons entry _ ih => rw [List.map_cons, ih, entry]; rfl

end Names

theorem Field.map_name? (fields : List Field) :
    fields.map Field.name? = (fields.map Field.entry).map Prod.fst := by
  rw [List.map_map]
  rfl

theorem readTokens_object_of_perm (order : (fields.map Field.entry).Perm (fields'.map Field.entry))
    (h : readTokens (Value.object fields).tokens = .ok c) :
    readTokens (Value.object fields').tokens = .ok c := by
  have ⟨given, names, assigns⟩ := readTokens_object.mp h
  have ⟨given', names', order'⟩ := names.perm order
  exact readTokens_object.mpr ⟨given', names', assigns.perm order'⟩

theorem readTokens_list_iff_object (short : vs.length ≤ Parameter.all.length)
    (names : Names (fields.map Field.entry) (Parameter.all.zip vs)) :
    readTokens (Value.list vs).tokens = .ok c ↔
      readTokens (Value.object fields).tokens = .ok c := by
  rw [readTokens_list, readTokens_object]
  constructor
  case mp  => exact fun ⟨_, assigns⟩ => ⟨_, names, assigns⟩
  case mpr =>
    intro ⟨given, names', assigns⟩
    exact ⟨short, names'.unique names ▸ assigns⟩

theorem names_of_readTokens (h : readTokens (Value.object fields).tokens = .ok c) :
    (∀ f ∈ fields, ∃ p : Parameter, f.name? = some p.key) ∧ (fields.map Field.name?).Nodup := by
  have ⟨given, names, assigns⟩ := readTokens_object.mp h
  have eq := (Field.map_name? fields).trans names.map_fst
  constructor
  case left =>
    intro f mem
    have mem : f.name? ∈ (given.map Prod.fst).map fun p => some p.key :=
      eq ▸ List.mem_map_of_mem mem
    have ⟨p, _, name⟩ := List.mem_map.mp mem
    exact ⟨p, name.symm⟩
  case right =>
    rw [eq]
    exact assigns.once.map fun _ _ same => Parameter.key_injective (Option.some.inj same)

end Document

namespace Config

open Document

theorem toOption_ofDocument_eq {text text' : List Char}
    (h : ∀ c, Document.read text = .ok c ↔ Document.read text' = .ok c) :
    (ofDocument text).toOption = (ofDocument text').toOption := by
  refine Option.ext fun c => ?_
  rw [toOption_ofDocument_eq_some_iff, toOption_ofDocument_eq_some_iff, ofDocument_eq_ok_iff,
    ofDocument_eq_ok_iff, h]

theorem ofDocument_of_layout {text text' : List Char} {fields : List Field} :
    (∀ fields' : List Field, (fields.map Field.entry).Perm (fields'.map Field.entry) →
      Spaced (Value.object fields).texts text → Spaced (Value.object fields').texts text' →
      (ofDocument text).toOption = (ofDocument text').toOption) ∧
    (∀ vs : List Value, vs.length ≤ Parameter.all.length →
      Names (fields.map Field.entry) (Parameter.all.zip vs) →
      Spaced (Value.object fields).texts text → Spaced (Value.list vs).texts text' →
      (ofDocument text).toOption = (ofDocument text').toOption) := by
  constructor
  case left =>
    intro fields' order spaced spaced'
    refine toOption_ofDocument_eq fun c => ?_
    rw [Value.read_iff spaced, Value.read_iff spaced']
    exact ⟨readTokens_object_of_perm order, readTokens_object_of_perm order.symm⟩
  case right =>
    intro vs short names spaced spaced'
    refine toOption_ofDocument_eq fun c => ?_
    rw [Value.read_iff spaced, Value.read_iff spaced']
    exact (readTokens_list_iff_object short names).symm

end Config

namespace Document

def Letter.plains (text : String) : List Letter :=
  text.toList.filterMap fun c => if plain : isPlain c then some (.plain c plain) else none

def NumberLiteral.ofDigit (c : Char) (digit : c.isDigit) : NumberLiteral where
  negative := false
  whole    := ⟨[c], List.forall_mem_singleton.mpr digit, nofun⟩
  leading  := by rintro ⟨⟩; rfl
  fraction := none
  exponent := none

def samplePoints : Value :=
  .list [.number (.ofDigit '2' rfl)]

def sampleSlope : Value :=
  .list [.number (.ofDigit '0' rfl), .number (.ofDigit '3' rfl), .number (.ofDigit '4' rfl)]

def namedFields : List Field := [
  (Letter.plains "indices", samplePoints),
  (.unit ['0', '0', '6', '4'] 0x64 rfl rfl :: Letter.plains "irection", sampleSlope)]

def swappedFields : List Field := [
  (Letter.plains "direction", sampleSlope),
  (Letter.plains "indices", samplePoints)]

def namedText : List Char :=
  "\x7b\"indices\":[2],\"\\u0064irection\":[0,3,4]\x7d".toList

def swappedText : List Char :=
  "\x7b\"direction\":[0,3,4],\"indices\":[2]\x7d".toList

def listedText : List Char :=
  "[[2],[0,3,4]]".toList

theorem spaced_namedText : Spaced (Value.object namedFields).texts namedText := by
  have text : namedText = (Value.object namedFields).texts.flatten := by
    simp [Value.texts, Value.symbols, namedFields, samplePoints, sampleSlope, bracketed, separated]
    decide +kernel
  exact text ▸ .flatten _

theorem spaced_swappedText : Spaced (Value.object swappedFields).texts swappedText := by
  have text : swappedText = (Value.object swappedFields).texts.flatten := by
    simp [Value.texts, Value.symbols, swappedFields, samplePoints, sampleSlope, bracketed,
      separated]
    decide +kernel
  exact text ▸ .flatten _

theorem spaced_listedText : Spaced (Value.list [samplePoints, sampleSlope]).texts listedText := by
  have text : listedText = (Value.list [samplePoints, sampleSlope]).texts.flatten := by
    simp [Value.texts, Value.symbols, samplePoints, sampleSlope, bracketed, separated]
    decide +kernel
  exact text ▸ .flatten _

end Document

namespace Config

open Document

theorem ofDocument_of_namedText :
    (ofDocument namedText).toOption =
      some { unset with indices := [2], direction := ⟨0, 3, 4⟩ } ∧
    (ofDocument namedText).toOption = (ofDocument swappedText).toOption ∧
    (ofDocument namedText).toOption = (ofDocument listedText).toOption := by
  have order : (namedFields.map Field.entry).Perm (swappedFields.map Field.entry) :=
    .swap _ _ _
  have names : Names (namedFields.map Field.entry)
      (Parameter.all.zip [samplePoints, sampleSlope]) :=
    .cons rfl (.cons rfl .nil)
  exact ⟨by decide +kernel,
    ofDocument_of_layout.left _ order spaced_namedText spaced_swappedText,
    ofDocument_of_layout.right _ (by decide) names spaced_namedText spaced_listedText⟩

theorem exists_parse_of_unknown_or_repeated {text : List Char} {fields : List Field}
    (spaced : Spaced (Value.object fields).texts text)
    (wrong : (∃ f ∈ fields, ∀ p : Parameter, f.name? ≠ some p.key) ∨
      ¬ (fields.map Field.name?).Nodup) :
    ∃ l, ofDocument text = .error (.parse l) := by
  refine exists_parse fun c read => ?_
  have ⟨known, once⟩ := names_of_readTokens ((Value.read_iff spaced).mp read)
  rcases wrong with ⟨f, mem, unknown⟩ | repeated
  case inl =>
    have ⟨p, name⟩ := known f mem
    exact unknown p name
  case inr => exact repeated once

end Config

namespace Document

-- The same name twice, once with an escape, and nothing given to it.
def repeatedFields : List Field := [
  (Letter.plains "minForce", .null),
  (.unit ['0', '0', '6', 'd'] 0x6d rfl rfl :: Letter.plains "inForce", .null)]

def repeatedText : List Char :=
  "\x7b\"minForce\":null,\"\\u006dinForce\":null\x7d".toList

theorem spaced_repeatedText : Spaced (Value.object repeatedFields).texts repeatedText := by
  have text : repeatedText = (Value.object repeatedFields).texts.flatten := by
    simp [Value.texts, Value.symbols, repeatedFields, bracketed, separated]
    decide +kernel
  exact text ▸ .flatten _

end Document

open Document in
theorem Config.exists_parse_of_repeatedText :
    (∀ f ∈ repeatedFields, f.name? = some Parameter.minForce.key) ∧
      ∃ l, Config.ofDocument repeatedText = .error (.parse l) := by
  have same : ∀ f ∈ repeatedFields, f.name? = some Parameter.minForce.key := by decide +kernel
  have repeated : ¬ (repeatedFields.map Field.name?).Nodup := by decide +kernel
  exact ⟨same, Config.exists_parse_of_unknown_or_repeated spaced_repeatedText (.inr repeated)⟩

end PointForce
