import ShapeCompiler.Json.Value

/-! Numbers as JSON texts write them, digit for digit, and two ways to read them: one that stays with
64 bits at every step, and one that rounds the exact number once. -/

namespace ShapeCompiler.Json

structure Numeral where
  negative : Bool
  whole : List Char
  fraction : Option (List Char)
  exponent : Option Int
deriving DecidableEq, Inhabited

def digitValue (c : Char) : Nat :=
  c.toNat - '0'.toNat

def digitsValue (digits : List Char) : Nat :=
  digits.foldl (fun value digit => value * 10 + digitValue digit) 0

def largestSignificand : Nat := 18446744073709551615

def extendSignificand (significand : Nat) : List Char → Nat × List Char
  | [] => (significand, [])
  | digit :: digits =>
      let extended := significand * 10 + digitValue digit
      if extended ≤ largestSignificand then extendSignificand extended digits
      else (significand, digit :: digits)

/-- Multiplies a number by a power of ten in one rounded step; a power below `10 ^ -308` takes
several. None when the result is too large. -/
def scaleByTen : Nat → Binary64 → Int → Option Binary64
  | 0, _, _ => some .zero
  | bound + 1, value, exponent =>
      if exponent.natAbs ≤ 308 then do
        let power ← Binary64.ofRatio? (Nat.pow 10 exponent.natAbs) 1
        if exponent < 0 then value.divide? power else value.multiply? power
      else if value.isZero then some value
      else if exponent < 0 then do
        let power ← Binary64.ofRatio? (Nat.pow 10 308) 1
        let quotient ← value.divide? power
        scaleByTen bound quotient (exponent + 308)
      else none

def binaryNumber (negative : Bool) (significand : Nat) (exponent : Int) : Option Number := do
  let rounded ← Binary64.ofRatio? significand 1
  let scaled ← scaleByTen 4 rounded exponent
  return .binary (if negative then scaled.negate else scaled)

def wholeNumber (negative : Bool) (significand : Nat) : Option Number :=
  if !negative then some (.whole significand)
  else if 0 < significand && significand ≤ 9223372036854775808 then some (.whole (-(significand : Int)))
  else binaryNumber true significand 0

namespace Numeral

/-- The value of a numeral. One with neither fraction nor exponent that fits 64 bits is whole. Any
other is read from a significand of 64 bits, digits beyond it only moving the decimal point, by
rounding the significand and then its product or quotient with a power of ten. None when it is too
large. -/
def number? (numeral : Numeral) : Option Number :=
  let (significand, dropped) := extendSignificand 0 numeral.whole
  match numeral.fraction, numeral.exponent with
  | none, none =>
      if dropped.isEmpty then wholeNumber numeral.negative significand
      else binaryNumber numeral.negative significand dropped.length
  | fraction, exponent =>
      let fraction := fraction.getD []
      let (significand, ignored) := extendSignificand significand fraction
      let moved : Int := dropped.length - (fraction.length - ignored.length : Nat)
      binaryNumber numeral.negative significand (moved + exponent.getD 0)

/-- Numbers from `10 ^ 400` on are above, and those below `10 ^ -400` nearer to zero than, all binary
numbers. -/
def decimalRange : Int := 400

def nearestSize? (numeral : Numeral) : Option Binary64 :=
  let digits := numeral.whole ++ numeral.fraction.getD []
  let significand := digitsValue digits
  let exponent := numeral.exponent.getD 0 - (numeral.fraction.getD []).length
  if significand = 0 || digits.length + exponent < -decimalRange then some .zero
  else if decimalRange < exponent then none
  else if exponent < 0 then Binary64.ofRatio? significand (Nat.pow 10 exponent.natAbs)
  else Binary64.ofRatio? (significand * Nat.pow 10 exponent.natAbs) 1

end Numeral

end ShapeCompiler.Json
