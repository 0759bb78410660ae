import PointForce.Decimal.Style
import PointForce.Document.Place
import PointForce.Text.Quoted

namespace PointForce.Document

-- Numbers from 0.00001 up to, but not including, 10 to the 16th are written in places, with at
-- least one digit after the point. A positive exponent has a sign, and a tie goes to the even
-- digit.
def numberStyle : NumberStyle where
  inPlaces e := -5 ≤ e ∧ e < 16
  keepPoint  := true
  plusSign   := true
  tie        := .even

example : numberStyle.write 100      = "100.0"   := by decide +kernel
example : numberStyle.write 0.00001  = "0.00001" := by decide +kernel
example : numberStyle.write 0.000001 = "1e-6"    := by decide +kernel
example : numberStyle.write 1e30     = "1e+30"   := by decide +kernel

def Numeral.describe : Numeral → String
  | natural n  => s!"integer `{n}`"
  | negative n => s!"integer `-{n}`"
  | binary x   => s!"floating point `{numberStyle.write x}`"

def Found.describe : Found → String
  | null      => "null"
  | boolean b => s!"boolean `{b}`"
  | number n  => n.describe
  | text s    => s!"string {Text.quoted s}"
  | list      => "sequence"
  | object    => "map"

def Expected.describe : Expected → String
  | configuration => "struct ForcePointActuatorConfig"
  | indices       => "a sequence"
  | index         => "usize"
  | direction     => "an array of length 3"
  | number        => "f64"
  | boolean       => "a boolean"

def knownKeys : String :=
  ", ".intercalate (Parameter.all.map fun p => s!"`{p.key}`")

def Fault.message : Fault → String
  | endInValue          => "EOF while parsing a value"
  | endInList           => "EOF while parsing a list"
  | endInObject         => "EOF while parsing an object"
  | endInText           => "EOF while parsing a string"
  | valueExpected       => "expected value"
  | wordExpected        => "expected ident"
  | colonExpected       => "expected `:`"
  | listCommaExpected   => "expected `,` or `]`"
  | objectCommaExpected => "expected `,` or `\x7d`"
  | keyExpected         => "key must be a string"
  | trailingComma       => "trailing comma"
  | trailingCharacters  => "trailing characters"
  | malformedNumber     => "invalid number"
  | numberOutOfRange    => "number out of range"
  | malformedEscape     => "invalid escape"
  | controlCharacter    => "control character (\\u0000-\\u001F) found while parsing a string"
  | loneSurrogate       => "lone leading surrogate in hex escape"
  | surrogateCutShort   => "unexpected end of hex escape"
  | invalidType f e     => s!"invalid type: {f.describe}, expected {e.describe}"
  | negativeIndex n     =>
    s!"invalid value: {(Numeral.negative n).describe}, expected {Expected.index.describe}"
  | shortDirection n    => s!"invalid length {n}, expected {Expected.direction.describe}"
  | unknownKey k        => s!"unknown field `{k}`, expected one of {knownKeys}"
  | duplicateKey p      => s!"duplicate field `{p.key}`"

def Place.message (p : Place) : String :=
  s!" at line {p.line} column {p.column}"

end PointForce.Document
