import PointForce.Document.Fault

-- The texts of a document, from behind the opening quote on.

namespace PointForce.Document

def hexDigit? (c : Char) : Option Nat :=
  if c.isDigit then some (c.toNat - '0'.toNat)
  else if 'a' ≤ c ∧ c ≤ 'f' then some (c.toNat - 'a'.toNat + 10)
  else if 'A' ≤ c ∧ c ≤ 'F' then some (c.toNat - 'A'.toNat + 10)
  else none

def hexValue? (cs : List Char) : Option Nat :=
  (cs.mapM hexDigit?).map fun ds => ds.foldl (fun n d => 16 * n + d) 0

-- A text that ends within the four digits is cut short, even where the bytes that are left are no
-- digits. Otherwise four bytes are read, digits or not.
def codeUnit (cs : List Char) : Scanning (Nat × List Char) :=
  if Text.byteLength cs < 4 then
    .error (.atFirst .endInText [])
  else
    match hexValue? (cs.take 4) with
    | some n => .ok (n, cs.drop 4)
    | none   => .error ⟨.malformedEscape, Text.byteLength cs - 4⟩

def expectSurrogate : List Char → List Char → Scanning (List Char)
  | [],      cs      => .ok cs
  | _ :: _,  []      => .error (.atFirst .endInText [])
  | w :: ws, c :: cs =>
    if c = w then expectSurrogate ws cs else .error (.atFirst .surrogateCutShort (c :: cs))

def numbered (cs : List Char) : Scanning (Char × List Char) := do
  let (high, cs) ← codeUnit cs
  if 0xdc00 ≤ high ∧ high ≤ 0xdfff then
    .error ⟨.loneSurrogate, Text.byteLength cs⟩
  else if 0xd800 ≤ high ∧ high ≤ 0xdbff then
    let cs        ← expectSurrogate ['\\', 'u'] cs
    let (low, cs) ← codeUnit cs
    if 0xdc00 ≤ low ∧ low ≤ 0xdfff then
      .ok (Char.ofNat (0x10000 + (high - 0xd800) * 0x400 + (low - 0xdc00)), cs)
    else
      .error ⟨.loneSurrogate, Text.byteLength cs⟩
  else
    .ok (Char.ofNat high, cs)

def escaped : List Char → Scanning (Char × List Char)
  | '"'  :: cs => .ok ('"', cs)
  | '\\' :: cs => .ok ('\\', cs)
  | '/'  :: cs => .ok ('/', cs)
  | 'b'  :: cs => .ok ('\x08', cs)
  | 'f'  :: cs => .ok ('\x0c', cs)
  | 'n'  :: cs => .ok ('\n', cs)
  | 'r'  :: cs => .ok ('\r', cs)
  | 't'  :: cs => .ok ('\t', cs)
  | 'u'  :: cs => numbered cs
  | c    :: cs => .error (.atFirst .malformedEscape (c :: cs))
  | []         => .error (.atFirst .endInText [])

theorem length_codeUnit {cs rest : List Char} {n : Nat} (h : codeUnit cs = .ok (n, rest)) :
    rest.length ≤ cs.length := by
  unfold codeUnit at h
  grind

theorem length_expectSurrogate : ∀ {ws cs rest : List Char},
    expectSurrogate ws cs = .ok rest → rest.length ≤ cs.length
  | [],      _,      _, h => by simp_all [expectSurrogate]
  | _ :: _,  [],     _, h => by simp [expectSurrogate] at h
  | w :: ws, c :: _, _, h => by
    rw [expectSurrogate] at h
    split at h
    case isTrue  => exact Nat.le_succ_of_le (length_expectSurrogate h)
    case isFalse => simp at h

theorem length_numbered {cs rest : List Char} {c : Char} (h : numbered cs = .ok (c, rest)) :
    rest.length ≤ cs.length := by
  have ⟨(high, cs₁), h₁, h⟩ := bind_eq_ok_iff.mp h
  have := length_codeUnit h₁
  by_cases h_low : 0xdc00 ≤ high ∧ high ≤ 0xdfff
  case pos => simp [h_low] at h
  case neg =>
    by_cases h_high : 0xd800 ≤ high ∧ high ≤ 0xdbff
    case pos =>
      simp only [h_low, h_high, if_false] at h
      have ⟨cs₂, h₂, h⟩        := bind_eq_ok_iff.mp h
      have ⟨(low, cs₃), h₃, h⟩ := bind_eq_ok_iff.mp h
      have := length_expectSurrogate h₂
      have := length_codeUnit h₃
      grind
    case neg => simp_all

theorem length_escaped {cs rest : List Char} {c : Char} (h : escaped cs = .ok (c, rest)) :
    rest.length ≤ cs.length := by
  unfold escaped at h
  split at h
  case h_9 => exact Nat.le_succ_of_le (length_numbered h)
  all_goals grind

def readText : List Char → Scanning (List Char × List Char)
  | []      => .error (.atFirst .endInText [])
  | c :: cs =>
    if c = '"' then
      .ok ([], cs)
    else if c = '\\' then
      match _ : escaped cs with
      | .error stop   => .error stop
      | .ok (d, rest) => (readText rest).map fun (text, rest) => (d :: text, rest)
    else if c.toNat < 0x20 then
      .error (.atFirst .controlCharacter (c :: cs))
    else
      (readText cs).map fun (text, rest) => (c :: text, rest)
termination_by cs => cs.length
decreasing_by
  · have := length_escaped ‹_›
    grind
  · grind

theorem length_readText {cs rest text : List Char} (h : readText cs = .ok (text, rest)) :
    rest.length < cs.length := by
  fun_induction readText cs generalizing text rest
  case case1 => simp at h
  case case2 => grind
  case case3 => simp at h
  case case4 he _ ih =>
    have ⟨_, hr, heq⟩ := map_eq_ok_iff.mp h
    have := length_escaped he
    have := ih hr
    grind
  case case5 => simp at h
  case case6 ih =>
    have ⟨_, hr, heq⟩ := map_eq_ok_iff.mp h
    have := ih hr
    grind

end PointForce.Document
