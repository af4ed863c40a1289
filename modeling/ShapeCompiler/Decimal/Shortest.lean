import ShapeCompiler.Decimal.Binary64

/-! The fewest decimal digits that read back as a binary number, and the nearest such digits, a tie
going to the even one; and the notations in which numbers are written. -/

namespace ShapeCompiler

structure Decimal where
  digits : Nat
  exponent : Int
deriving DecidableEq, Inhabited

namespace Decimal

/-- The numbers that round to a given one: a ratio below it, one above it, both over one denominator,
and whether these two are themselves among them. -/
structure Neighbourhood where
  low : Nat
  high : Nat
  denominator : Nat
  closed : Bool

/-- Half a unit on both sides, but a quarter below a power of two. -/
def neighbourhood (number : Binary64) : Neighbourhood :=
  let narrow := number.mantissa == Nat.pow 2 52 && number.exponent != Binary64.leastExponent
  let unit : Binary64 := { number with mantissa := 1 }
  let scale := unit.ratio.1
  let denominator := 4 * unit.ratio.2
  ⟨(4 * number.mantissa - (if narrow then 1 else 2)) * scale, (4 * number.mantissa + 2) * scale,
    denominator, number.mantissa % 2 == 0⟩

def Neighbourhood.contains (around : Neighbourhood) (numerator denominator : Nat) : Bool :=
  let low := around.low * denominator
  let high := around.high * denominator
  let value := numerator * around.denominator
  if around.closed then low ≤ value && value ≤ high else low < value && value < high

def magnitude (numerator denominator : Nat) : Int :=
  if denominator ≤ numerator then (Nat.toDigits 10 (numerator / denominator)).length
  else
    let length := (Nat.toDigits 10 (denominator / numerator)).length
    if denominator = numerator * Nat.pow 10 (length - 1) then 2 - (length : Int) else 1 - (length : Int)

def ratio (decimal : Decimal) : Nat × Nat :=
  if decimal.exponent < 0 then (decimal.digits, Nat.pow 10 decimal.exponent.natAbs)
  else (decimal.digits * Nat.pow 10 decimal.exponent.natAbs, 1)

/-- The nearest decimal of `count` digits that reads back, if one of the two next to the number
does. -/
def candidate? (number : Binary64) (count : Nat) : Option Decimal :=
  let value := number.ratio
  let exponent := magnitude value.1 value.2 - count
  let scaled :=
    if exponent < 0 then (value.1 * Nat.pow 10 exponent.natAbs, value.2)
    else (value.1, value.2 * Nat.pow 10 exponent.natAbs)
  let below : Decimal := ⟨scaled.1 / scaled.2, exponent⟩
  let above : Decimal := ⟨scaled.1 / scaled.2 + 1, exponent⟩
  let reads (decimal : Decimal) : Bool :=
    (neighbourhood number).contains decimal.ratio.1 decimal.ratio.2
  let twice := 2 * (scaled.1 % scaled.2)
  let nearer :=
    if twice < scaled.2 || (twice == scaled.2 && below.digits % 2 == 0) then below else above
  if reads below && reads above then some nearer
  else if reads below then some below
  else if reads above then some above
  else none

def trimZeros : Nat → Decimal → Decimal
  | 0, decimal => decimal
  | bound + 1, decimal =>
      if decimal.digits % 10 = 0 && decimal.digits != 0 then
        trimZeros bound ⟨decimal.digits / 10, decimal.exponent + 1⟩
      else decimal

def shortest (number : Binary64) : Decimal :=
  if number.isZero then ⟨0, 0⟩
  else
    let found := (List.range 17).findSome? fun count => candidate? number (count + 1)
    trimZeros 20 (found.getD ⟨0, 0⟩)

def digitsText (digits : Nat) : List Char :=
  Nat.toDigits 10 digits

def zeros (count : Nat) : List Char :=
  List.replicate count '0'

def whole? (decimal : Decimal) : Option Nat :=
  if decimal.exponent < 0 then none
  else some (decimal.digits * Nat.pow 10 decimal.exponent.natAbs)

def plusSign (exponent : Int) : List Char :=
  if exponent < 0 then [] else ['+']

def scientific (mark : Char) (pointAlways plus : Bool) (decimal : Decimal) : List Char :=
  let digits := digitsText decimal.digits
  let exponent := decimal.exponent + digits.length - 1
  let fraction := digits.drop 1
  let point :=
    if fraction.isEmpty then (if pointAlways then ['.', '0'] else []) else '.' :: fraction
  digits.take 1 ++ point ++ mark :: (if plus then plusSign exponent else []) ++
    (toString exponent).toList

/-- How JSON texts write numbers: whether whole ones have a point and a zero, below which power of ten
they are positional, and above which power of ten they are when smaller than one. -/
structure Style where
  pointAlways : Bool
  largest : Int
  smallest : Int

def Style.usual : Style := ⟨true, 16, -5⟩

def Style.canonical : Style := ⟨false, 21, -6⟩

def jsonText (style : Style) (decimal : Decimal) : List Char :=
  let digits := digitsText decimal.digits
  let point : Int := digits.length + decimal.exponent
  let wholeEnd := if style.pointAlways then ['.', '0'] else []
  if decimal.digits = 0 then '0' :: wholeEnd
  else if 0 ≤ decimal.exponent && point ≤ style.largest then
    digits ++ zeros decimal.exponent.natAbs ++ wholeEnd
  else if 0 < point && point ≤ style.largest then
    digits.take point.natAbs ++ '.' :: digits.drop point.natAbs
  else if style.smallest < point && point ≤ 0 then ['0', '.'] ++ zeros point.natAbs ++ digits
  else scientific 'e' false true decimal

end Decimal

namespace Binary64

def signText (number : Binary64) : List Char :=
  if number.negative then ['-'] else []

def jsonText (number : Binary64) : List Char :=
  number.signText ++ (Decimal.shortest number).jsonText .usual

def canonicalJsonText (number : Binary64) : List Char :=
  (if number.isZero then [] else number.signText) ++ (Decimal.shortest number).jsonText .canonical

def canonicalText (number : Binary64) : List Char :=
  number.signText ++ (Decimal.shortest number).scientific 'E' true false

end Binary64

end ShapeCompiler
