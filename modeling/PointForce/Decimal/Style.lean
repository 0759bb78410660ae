import PointForce.Decimal.Shortest

namespace PointForce

-- Which decimal exponents are written out in places, whether a whole number keeps a digit after
-- the point, whether a positive exponent has a sign, and which way a tie goes.
structure NumberStyle where
  inPlaces  : Int → Bool
  keepPoint : Bool
  plusSign  : Bool
  tie       : Tie

namespace NumberStyle

def zeros (n : Int) : List Char :=
  List.replicate n.toNat '0'

def places (style : NumberStyle) (digits : List Char) (point : Int) : List Char :=
  if point ≤ 0 then
    ['0', '.'] ++ zeros (-point) ++ digits
  else if point < digits.length then
    digits.take point.toNat ++ ['.'] ++ digits.drop point.toNat
  else
    digits ++ zeros (point - digits.length) ++ (if style.keepPoint then ['.', '0'] else [])

def scientific (style : NumberStyle) (digits : List Char) (exponent : Int) : List Char :=
  let fraction := digits.drop 1
  let sign     := if exponent < 0 then ['-'] else if style.plusSign then ['+'] else []
  digits.take 1 ++ (if fraction.isEmpty then [] else '.' :: fraction) ++
    ['e'] ++ sign ++ Nat.toDigits 10 exponent.natAbs

def decimal (style : NumberStyle) (d : Decimal) : List Char :=
  let digits := Nat.toDigits 10 d.significand
  let point  := digits.length + d.exponent
  if style.inPlaces (point - 1) then
    style.places digits point
  else
    style.scientific digits (point - 1)

def magnitude (style : NumberStyle) (x : Float) : List Char :=
  if x == 0 then
    style.places ['0'] 1
  else
    style.decimal (Decimal.shortest style.tie (.ofFloat x))

def write (style : NumberStyle) (x : Float) : String :=
  if x.isNaN then
    "NaN"
  else
    let sign := if x.toBits >>> 63 = 1 then "-" else ""
    if x.isFinite then sign ++ String.ofList (style.magnitude x) else sign ++ "inf"

end NumberStyle
end PointForce
