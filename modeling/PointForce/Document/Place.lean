import PointForce.Document.Token

namespace PointForce.Document

structure Place where
  line   : Nat
  column : Nat
  deriving DecidableEq, Repr

def Place.ofOffset (text : List Char) (n : Nat) : Place :=
  let read := Text.fitting n text
  { line   := 1 + read.count '\n'
    column := n - Text.byteLength (read.reverse.dropWhile (· ≠ '\n')) }

example : Place.ofOffset ['a', 'é', 'b'] 2        = ⟨1, 2⟩ := by decide +kernel
example : Place.ofOffset ['a', '\n', '\n', 'b'] 4 = ⟨3, 1⟩ := by decide +kernel
example : Place.ofOffset ['a', '\n', '\n', 'b'] 2 = ⟨2, 0⟩ := by decide +kernel

structure Located where
  fault : Fault
  place : Place

namespace Lexeme

def bytesBehind (l : Lexeme) : Nat :=
  match l.token with
  | .brokenText stop    => stop.left
  | .brokenLiteral stop => stop.left
  | _                   => Text.byteLength l.rest

-- A list or an object of the wrong type is not entered, and of a token in the wrong place only the
-- first byte is read. A key is refused in front of the next token, but behind the end of the
-- object.
def bytesLeft (l : Lexeme) : Fault → Nat
  | .invalidType .list _   => Text.byteLength l.text
  | .invalidType .object _ => Text.byteLength l.text
  | .unknownKey _          => behindKey
  | .duplicateKey _        => behindKey
  | .valueExpected         => behindFirst
  | .keyExpected           => behindFirst
  | .colonExpected         => behindFirst
  | .listCommaExpected     => behindFirst
  | .objectCommaExpected   => behindFirst
  | .trailingComma         => behindFirst
  | .trailingCharacters    => behindFirst
  | _                      => l.bytesBehind
where
  behindFirst : Nat :=
    Text.byteLength l.text - 1
  behindKey : Nat :=
    match l.token with
    | .objectEnd => l.bytesBehind
    | _          => Text.byteLength l.text

end Lexeme

def Stop.locate (text : List Char) (stop : Stop (List Token)) : Located :=
  let ls   := lexemes text
  let left := (ls.drop (ls.length - stop.left.length)).head?.elim 0 fun l => l.bytesLeft stop.fault
  { fault := stop.fault
    place := .ofOffset text (Text.byteLength text - left) }

end PointForce.Document
