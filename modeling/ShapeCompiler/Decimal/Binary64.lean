/-! Finite binary floating-point numbers of 64 bits, held exactly as a sign, a mantissa and a power
of two. A ratio of natural numbers is rounded to the nearest of them, a tie to the even mantissa. -/

namespace ShapeCompiler

/-- The number `mantissa * 2 ^ exponent`, negated when `negative` is set. Rounding yields mantissas
below `2 ^ 53`, and below `2 ^ 52` only with the least exponent. -/
structure Binary64 where
  negative : Bool
  mantissa : Nat
  exponent : Int
deriving DecidableEq, Inhabited

namespace Binary64

def leastExponent : Int := -1074

def zero : Binary64 := ⟨false, 0, leastExponent⟩

def isZero (number : Binary64) : Bool :=
  number.mantissa == 0

def negate (number : Binary64) : Binary64 :=
  { number with negative := !number.negative }

def divideToEven (numerator denominator : Nat) : Nat :=
  let quotient := numerator / denominator
  let twice := 2 * (numerator % denominator)
  if twice < denominator || (twice == denominator && quotient % 2 == 0) then quotient
  else quotient + 1

def unscale (numerator denominator : Nat) (exponent : Int) : Nat × Nat :=
  if exponent < 0 then (numerator * Nat.pow 2 exponent.natAbs, denominator)
  else (numerator, denominator * Nat.pow 2 exponent.natAbs)

/-- The exponent with which the ratio has a mantissa of 53 bits, or the least one. -/
def fittingExponent (numerator denominator : Nat) : Int :=
  let guess : Int := (numerator.log2 : Int) - (denominator.log2 : Int) - 52
  let scaled := unscale numerator denominator guess
  let fitting := if scaled.1 < Nat.pow 2 52 * scaled.2 then guess - 1 else guess
  max fitting leastExponent

def ofRatio? (numerator denominator : Nat) : Option Binary64 :=
  if numerator = 0 then some zero
  else
    let exponent := fittingExponent numerator denominator
    let scaled := unscale numerator denominator exponent
    let mantissa := divideToEven scaled.1 scaled.2
    let rounded : Binary64 :=
      if mantissa = Nat.pow 2 53 then ⟨false, Nat.pow 2 52, exponent + 1⟩ else ⟨false, mantissa, exponent⟩
    if rounded.exponent ≤ 971 then some rounded else none

def ratio (number : Binary64) : Nat × Nat :=
  if number.exponent < 0 then (number.mantissa, Nat.pow 2 number.exponent.natAbs)
  else (number.mantissa * Nat.pow 2 number.exponent.natAbs, 1)

def multiply? (left right : Binary64) : Option Binary64 :=
  ofRatio? (left.ratio.1 * right.ratio.1) (left.ratio.2 * right.ratio.2)

def divide? (left right : Binary64) : Option Binary64 :=
  ofRatio? (left.ratio.1 * right.ratio.2) (left.ratio.2 * right.ratio.1)

end Binary64

end ShapeCompiler
