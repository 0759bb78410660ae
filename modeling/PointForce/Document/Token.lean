import PointForce.Document.Number
import PointForce.Document.Text

-- Whether a fault in a text or in another literal matters depends on what stands before it, so the
-- scanner only records where it stopped.

namespace PointForce.Document

inductive Token
  | listStart
  | listEnd
  | objectStart
  | objectEnd
  | comma
  | colon
  | null
  | boolean (b : Bool)
  | number (n : Numeral)
  | text (s : String)
  | brokenText (stop : Stop Nat)
  | brokenLiteral (stop : Stop Nat)
  | stray

def expectWord : List Char → List Char → Scanning (List Char)
  | [],      cs      => .ok cs
  | _ :: _,  []      => .error (.atFirst .endInValue [])
  | w :: ws, c :: cs =>
    if c = w then expectWord ws cs else .error (.atFirst .wordExpected (c :: cs))

theorem length_expectWord : ∀ {ws cs rest : List Char},
    expectWord ws cs = .ok rest → rest.length ≤ cs.length
  | [],      _,      _, h => by simp_all [expectWord]
  | _ :: _,  [],     _, h => by simp [expectWord] at h
  | w :: ws, c :: _, _, h => by
    rw [expectWord] at h
    split at h
    case isTrue  => exact Nat.le_succ_of_le (length_expectWord h)
    case isFalse => simp at h

namespace Token

def ofWord (token : Token) (word : String) (cs : List Char) : Token × List Char :=
  match expectWord word.toList cs with
  | .ok rest    => (token, rest)
  | .error stop => (.brokenLiteral stop, [])

def ofText (cs : List Char) : Token × List Char :=
  match readText cs with
  | .ok (chars, rest) => (.text (String.ofList chars), rest)
  | .error stop       => (.brokenText stop, [])

def ofNumber (cs : List Char) : Token × List Char :=
  match NumberParts.read cs with
  | .error stop       => (.brokenLiteral stop, [])
  | .ok (parts, rest) =>
    match parts.numeral with
    | .ok n       => (.number n, rest)
    | .error stop => (.brokenLiteral { stop with left := stop.left + Text.byteLength rest }, [])

def ofChars (c : Char) (cs : List Char) : Token × List Char :=
  match c with
  | '['    => (.listStart, cs)
  | ']'    => (.listEnd, cs)
  | '\x7b' => (.objectStart, cs)
  | '\x7d' => (.objectEnd, cs)
  | ','    => (.comma, cs)
  | ':'    => (.colon, cs)
  | '"'    => ofText cs
  | 'n'    => ofWord .null "ull" cs
  | 't'    => ofWord (.boolean true) "rue" cs
  | 'f'    => ofWord (.boolean false) "alse" cs
  | c      => if c = '-' ∨ c.isDigit then ofNumber (c :: cs) else (.stray, cs)

theorem length_ofWord (token : Token) (word : String) (cs : List Char) :
    (ofWord token word cs).2.length ≤ cs.length := by
  unfold ofWord
  split
  case h_1 h => exact length_expectWord h
  case h_2   => simp

theorem length_ofText (cs : List Char) : (ofText cs).2.length ≤ cs.length := by
  unfold ofText
  split
  case h_1 h => exact Nat.le_of_lt (length_readText h)
  case h_2   => simp

theorem length_ofNumber (c : Char) (cs : List Char) :
    (ofNumber (c :: cs)).2.length ≤ cs.length := by
  unfold ofNumber
  split
  case h_1 => simp
  case h_2 h =>
    have := NumberParts.length_read h
    split
    case h_1 => exact Nat.le_of_lt_succ this
    case h_2 => simp

theorem length_ofChars (c : Char) (cs : List Char) : (ofChars c cs).2.length ≤ cs.length := by
  unfold ofChars
  split
  case h_7  => exact length_ofText cs
  case h_8  => exact length_ofWord ..
  case h_9  => exact length_ofWord ..
  case h_10 => exact length_ofWord ..
  case h_11 =>
    split
    case isTrue  => exact length_ofNumber ..
    case isFalse => exact Nat.le_refl _
  all_goals exact Nat.le_refl _

end Token

def isBlank (c : Char) : Bool :=
  c = ' ' || c = '\t' || c = '\n' || c = '\r'

structure Lexeme where
  token : Token
  text  : List Char
  rest  : List Char

def lexemes : List Char → List Lexeme
  | []      => []
  | c :: cs =>
    if isBlank c then
      lexemes cs
    else
      let read := Token.ofChars c cs
      { token := read.1, text := c :: cs, rest := read.2 } :: lexemes read.2
termination_by cs => cs.length
decreasing_by
  · exact Nat.lt_succ_self _
  · exact Nat.lt_succ_of_le (Token.length_ofChars c cs)

def scan (cs : List Char) : List Token :=
  (lexemes cs).map Lexeme.token

theorem scan_nil : scan [] = [] := by
  rw [scan, lexemes, List.map_nil]

theorem scan_cons (c : Char) (cs : List Char) :
    scan (c :: cs) =
      if isBlank c then scan cs else (Token.ofChars c cs).1 :: scan (Token.ofChars c cs).2 := by
  rw [scan, lexemes]
  split
  case isTrue  => rfl
  case isFalse => rfl

end PointForce.Document
