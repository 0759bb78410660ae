import PointForce.Document.Place

-- The parameters stand in an object, under their keys, or in a list, in the order of declaration.
-- The first fault from left to right counts.

namespace PointForce.Document

abbrev Reading :=
  Except (Stop (List Token))

def refusal (expected : Expected) : Token → Fault
  | .null               => .invalidType .null expected
  | .boolean b          => .invalidType (.boolean b) expected
  | .number n           => .invalidType (.number n) expected
  | .text s             => .invalidType (.text s) expected
  | .listStart          => .invalidType .list expected
  | .objectStart        => .invalidType .object expected
  | .brokenText stop    => stop.fault
  | .brokenLiteral stop => stop.fault
  | _                   => .valueExpected

def readNumber (token : Token) (rest : List Token) : Reading Float :=
  match token with
  | .number n => .ok n.toFloat
  | _         => .error ⟨refusal .number token, token :: rest⟩

def readOptionalNumber (token : Token) (rest : List Token) : Reading (Option Float) :=
  match token with
  | .null => .ok none
  | _     => (readNumber token rest).map some

def readBoolean (token : Token) (rest : List Token) : Reading Bool :=
  match token with
  | .boolean b => .ok b
  | _          => .error ⟨refusal .boolean token, token :: rest⟩

def readIndex (token : Token) (rest : List Token) : Reading Nat :=
  match token with
  | .number (.natural n)  => .ok n
  | .number (.negative n) => .error ⟨.negativeIndex n, token :: rest⟩
  | _                     => .error ⟨refusal .index token, token :: rest⟩

inductive Element
  | next (token : Token) (rest : List Token)
  | done (rest : List Token)

def element (first : Bool) : List Token → Reading Element
  | []               => .error ⟨.endInList, []⟩
  | .listEnd :: rest => .ok (.done rest)
  | token :: rest    =>
    if first then
      .ok (.next token rest)
    else
      match token, rest with
      | .comma, []               => .error ⟨.endInValue, []⟩
      | .comma, .listEnd :: rest => .error ⟨.trailingComma, .listEnd :: rest⟩
      | .comma, token :: rest    => .ok (.next token rest)
      | token,  rest             => .error ⟨.listCommaExpected, token :: rest⟩

theorem length_element {first : Bool} {ts rest : List Token} {token : Token}
    (h : element first ts = .ok (.next token rest)) : rest.length < ts.length := by
  unfold element at h
  grind

def closeList : List Token → Reading (List Token)
  | []                         => .error ⟨.endInList, []⟩
  | .listEnd :: rest           => .ok rest
  | .comma :: .listEnd :: rest => .error ⟨.trailingComma, .listEnd :: rest⟩
  | .comma :: rest             => .error ⟨.trailingCharacters, rest⟩
  | token :: rest              => .error ⟨.trailingCharacters, token :: rest⟩

def readIndices (first : Bool) (ts : List Token) : Reading (List Nat × List Token) :=
  match _ : element first ts with
  | .error stop            => .error stop
  | .ok (.done rest)       => .ok ([], rest)
  | .ok (.next token rest) => do
    let index           ← readIndex token rest
    let (indices, rest) ← readIndices false rest
    .ok (index :: indices, rest)
termination_by ts.length
decreasing_by exact length_element ‹_›

def readComponent (count : Nat) (ts : List Token) : Reading (Float × List Token) := do
  match ← element (count = 0) ts with
  | .done _          => .error ⟨.shortDirection count, ts⟩
  | .next token rest => .ok (← readNumber token rest, rest)

def readDirection (ts : List Token) : Reading (Vec3 Float × List Token) := do
  let (x, ts) ← readComponent 0 ts
  let (y, ts) ← readComponent 1 ts
  let (z, ts) ← readComponent 2 ts
  let ts      ← closeList ts
  .ok (⟨x, y, z⟩, ts)

def readValue (p : Parameter) (c : Config Float) (token : Token) (ts : List Token) :
    Reading (Config Float × List Token) := do
  match p, token with
  | .indices,           .listStart =>
    let (indices, ts) ← readIndices true ts
    .ok ({ c with indices }, ts)
  | .indices,           _ => .error ⟨refusal .indices token, token :: ts⟩
  | .direction,         .listStart =>
    let (direction, ts) ← readDirection ts
    .ok ({ c with direction }, ts)
  | .direction,         _ => .error ⟨refusal .direction token, token :: ts⟩
  | .maxForce,          _ => .ok ({ c with maxForce          := ← readOptionalNumber token ts }, ts)
  | .minForce,          _ => .ok ({ c with minForce          := ← readOptionalNumber token ts }, ts)
  | .initForce,         _ => .ok ({ c with initForce         := ← readOptionalNumber token ts }, ts)
  | .maxForceVariation, _ => .ok ({ c with maxForceVariation := ← readOptionalNumber token ts }, ts)
  | .penalty,           _ => .ok ({ c with penalty           := ← readOptionalNumber token ts }, ts)
  | .showForce,         _ => .ok ({ c with showForce         := ← readBoolean token ts }, ts)
  | .visuScale,         _ => .ok ({ c with visuScale         := ← readNumber token ts }, ts)

def readPositional : List Parameter → Bool → Config Float → List Token →
    Reading (Config Float × List Token)
  | [],      _,     c, ts => (closeList ts).map (c, ·)
  | p :: ps, first, c, ts => do
    match ← element first ts with
    | .done rest       => .ok (c, rest)
    | .next token rest =>
      let (c, rest) ← readValue p c token rest
      readPositional ps false c rest

inductive Member
  | next (key : String) (rest : List Token)
  | done (rest : List Token)

def key : List Token → Reading Member
  | .text k :: rest          => .ok (.next k rest)
  | .brokenText stop :: rest => .error ⟨stop.fault, .brokenText stop :: rest⟩
  | ts                       => .error ⟨.keyExpected, ts⟩

def member (first : Bool) : List Token → Reading Member
  | []                 => .error ⟨.endInObject, []⟩
  | .objectEnd :: rest => .ok (.done rest)
  | token :: rest      =>
    if first then
      key (token :: rest)
    else
      match token, rest with
      | .comma, []                 => .error ⟨.endInValue, []⟩
      | .comma, .objectEnd :: rest => .error ⟨.trailingComma, .objectEnd :: rest⟩
      | .comma, rest               => key rest
      | token,  rest               => .error ⟨.objectCommaExpected, token :: rest⟩

def afterColon : List Token → Reading (Token × List Token)
  | .colon :: token :: rest => .ok (token, rest)
  | [.colon]                => .error ⟨.endInValue, []⟩
  | []                      => .error ⟨.endInObject, []⟩
  | token :: rest           => .error ⟨.colonExpected, token :: rest⟩

-- Only the parameters that were not met before may follow, so the reading ends.
def readMembers (unmet : List Parameter) (first : Bool) (c : Config Float) (ts : List Token) :
    Reading (Config Float × List Token) := do
  match ← member first ts with
  | .done rest   => .ok (c, rest)
  | .next k rest =>
    match Parameter.ofKey? k with
    | none   => .error ⟨.unknownKey k, rest⟩
    | some p =>
      if _ : p ∈ unmet then
        let (token, rest) ← afterColon rest
        let (c, rest)     ← readValue p c token rest
        readMembers (unmet.erase p) false c rest
      else
        .error ⟨.duplicateKey p, rest⟩
termination_by unmet.length
decreasing_by
  rw [List.length_erase_of_mem ‹_›]
  exact Nat.sub_lt (List.length_pos_of_mem ‹_›) Nat.one_pos

def readConfig : List Token → Reading (Config Float × List Token)
  | []                   => .error ⟨.endInValue, []⟩
  | .listStart :: rest   => readPositional Parameter.all true .unset rest
  | .objectStart :: rest => readMembers Parameter.all true .unset rest
  | token :: rest        => .error ⟨refusal .configuration token, token :: rest⟩

def readTokens (ts : List Token) : Reading (Config Float) := do
  match ← readConfig ts with
  | (c, [])   => .ok c
  | (_, rest) => .error ⟨.trailingCharacters, rest⟩

def read (text : List Char) : Except Located (Config Float) :=
  match readTokens (scan text) with
  | .ok c       => .ok c
  | .error stop => .error (stop.locate text)

theorem read_eq_ok_iff {text : List Char} {c : Config Float} :
    read text = .ok c ↔ readTokens (scan text) = .ok c := by
  rw [read]
  split
  case h_1 h => simp [h]
  case h_2 h => simp [h]

end PointForce.Document
