import PointForce.Config.Basic
import PointForce.Text.Encoding

namespace PointForce.Document

-- The integers are those of 64 bits. A negative one is given by its size.
inductive Numeral
  | natural (n : Nat)
  | negative (n : Nat)
  | binary (x : Float)

def Numeral.toFloat : Numeral → Float
  | natural n  => Float.ofNat n
  | negative n => -Float.ofNat n
  | binary x   => x

inductive Found
  | null
  | boolean (b : Bool)
  | number (n : Numeral)
  | text (s : String)
  | list
  | object

inductive Expected
  | configuration
  | indices
  | index
  | direction
  | number
  | boolean
  deriving DecidableEq, Repr

inductive Fault
  | endInValue
  | endInList
  | endInObject
  | endInText
  | valueExpected
  | wordExpected
  | colonExpected
  | listCommaExpected
  | objectCommaExpected
  | keyExpected
  | trailingComma
  | trailingCharacters
  | malformedNumber
  | numberOutOfRange
  | malformedEscape
  | controlCharacter
  | loneSurrogate
  | surrogateCutShort
  | invalidType (found : Found) (expected : Expected)
  | negativeIndex (n : Nat)
  | shortDirection (length : Nat)
  | unknownKey (key : String)
  | duplicateKey (parameter : Parameter)

-- A fault, and how much of the input was not looked at when it was met.
structure Stop (ρ : Type) where
  fault : Fault
  left  : ρ

def Stop.atFirst (fault : Fault) (cs : List Char) : Stop Nat where
  fault := fault
  left  := Text.byteLength cs - 1

abbrev Scanning :=
  Except (Stop Nat)

theorem map_eq_ok_iff {ε β γ : Type} {f : β → γ} {x : Except ε β} {y : γ} :
    x.map f = .ok y ↔ ∃ b, x = .ok b ∧ f b = y := by
  cases x <;> simp [Except.map]

theorem bind_eq_ok_iff {ε β γ : Type} {f : β → Except ε γ} {x : Except ε β} {y : γ} :
    x >>= f = .ok y ↔ ∃ b, x = .ok b ∧ f b = .ok y := by
  cases x <;> simp [bind, Except.bind]

end PointForce.Document
