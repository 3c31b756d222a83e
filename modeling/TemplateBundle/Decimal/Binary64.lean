/-!
Contract: binary floating-point numbers of 64 bits as words, with exact arithmetic.

Owns: the fields of a word, the nearest word to a ratio of natural numbers and to a
decimal numeral, and the classes a caller asks for (whole, above zero).

Does not own: how a number is printed (`Decimal.Shortest`, `Decimal.Notation`).
-/

namespace TemplateBundle.Decimal

/-- A power of two. -/
def twoTo (exponent : Nat) : Nat := Nat.pow 2 exponent

/-- A power of ten. -/
def tenTo (exponent : Nat) : Nat := Nat.pow 10 exponent

/-- A floating-point number, as its word: sign, eleven bits of exponent, 52 of fraction. -/
structure Binary64 where
  word : UInt64
deriving DecidableEq, Repr

namespace Binary64

/-- The word of a magnitude, with its sign. -/
def ofMagnitude (negative : Bool) (magnitude : Nat) : Binary64 :=
  ⟨UInt64.ofNat (if negative then twoTo 63 + magnitude else magnitude)⟩

/-- The magnitude of an infinity. Greater magnitudes are no numbers. -/
def infinityMagnitude : Nat := 0x7FF * twoTo 52

/-- An infinity. -/
def infinity (negative : Bool) : Binary64 := ofMagnitude negative infinityMagnitude

/-- The word that is no number. -/
def notANumber : Binary64 := ofMagnitude false (infinityMagnitude + twoTo 51)

/-- The number is written with a minus sign. -/
def negative (value : Binary64) : Bool := twoTo 63 ≤ value.word.toNat

/-- The word without its sign bit. -/
def magnitude (value : Binary64) : Nat := value.word.toNat % twoTo 63

/-- The word is no number. -/
def isNotANumber (value : Binary64) : Bool := infinityMagnitude < value.magnitude

/-- The word is an infinity. -/
def isInfinite (value : Binary64) : Bool := value.magnitude == infinityMagnitude

/-- Significand and binary exponent of a finite word: the magnitude is
`significand * 2 ^ exponent`. -/
def parts (value : Binary64) : Nat × Int :=
  let exponent : Nat := value.magnitude / twoTo 52
  let fraction : Nat := value.magnitude % twoTo 52
  if exponent = 0 then (fraction, -1074) else (twoTo 52 + fraction, (exponent : Int) - 1075)

/-- The quotient rounded to the nearest natural number, a half to the even one. -/
def roundHalfEven (numerator denominator : Nat) : Nat :=
  let quotient := numerator / denominator
  let twice := 2 * (numerator % denominator)
  if twice < denominator then quotient
  else if denominator < twice then quotient + 1
  else quotient + quotient % 2

/-- A ratio times a power of two, as a ratio. -/
def scaleByTwo (numerator denominator : Nat) (exponent : Int) : Nat × Nat :=
  if 0 ≤ exponent then (numerator * twoTo exponent.toNat, denominator)
  else (numerator, denominator * twoTo (-exponent).toNat)

/-- The magnitude nearest to a ratio, a half going to the even significand. -/
def nearestMagnitude (numerator denominator : Nat) : Nat :=
  if numerator = 0 then 0
  else
    let estimate := (numerator.log2 : Int) - (denominator.log2 : Int) - 52
    let scaled := scaleByTwo numerator denominator (-estimate)
    let exponent := max (if scaled.1 < twoTo 52 * scaled.2 then estimate - 1 else estimate) (-1074)
    let scaled := scaleByTwo numerator denominator (-exponent)
    let magnitude := (exponent + 1074).toNat * twoTo 52 + roundHalfEven scaled.1 scaled.2
    min magnitude infinityMagnitude

/-- The number nearest to a decimal numeral `digits * 10 ^ exponent`. A numeral whose length
already shows that it is beyond the range is not computed. -/
def ofDecimal (negative : Bool) (digits : Nat) (exponent : Int) : Binary64 :=
  let bits : Nat := digits.log2
  ofMagnitude negative <|
    if digits = 0 ∨ exponent + ((bits / 3 : Nat) : Int) < -340 then 0
    else if 310 < exponent + ((3 * bits / 10 : Nat) : Int) then infinityMagnitude
    else if 0 ≤ exponent then nearestMagnitude (digits * tenTo exponent.toNat) 1
    else nearestMagnitude digits (tenTo (-exponent).toNat)

/-- The number nearest to an integer. -/
def ofInt (value : Int) : Binary64 :=
  ofMagnitude (value < 0) (nearestMagnitude value.natAbs 1)

/-- The number nearest to a whole number times a power of two. A zero keeps the sign it is given. -/
def ofScaled (belowZero : Bool) (significand exponent : Int) : Binary64 :=
  let scaled := scaleByTwo significand.natAbs 1 exponent
  ofMagnitude (if significand = 0 then belowZero else significand < 0)
    (nearestMagnitude scaled.1 scaled.2)

/-- Significand with its sign and binary exponent of a finite word. -/
def signedParts (value : Binary64) : Int × Int :=
  let (significand, exponent) := value.parts
  let size : Int := (significand : Nat)
  (if value.negative then -size else size, exponent)

/-- The sum of two numbers, rounded. -/
def add (left right : Binary64) : Binary64 :=
  if left.isNotANumber || right.isNotANumber then notANumber
  else if left.isInfinite then
    if right.isInfinite && left.negative != right.negative then notANumber else left
  else if right.isInfinite then right
  else
    let (first, firstExponent) := left.signedParts
    let (second, secondExponent) := right.signedParts
    let exponent := min firstExponent secondExponent
    let aligned (significand own : Int) : Int :=
      significand * (twoTo (own - exponent).toNat : Nat)
    ofScaled (left.negative && right.negative)
      (aligned first firstExponent + aligned second secondExponent) exponent

/-- The product of two numbers, rounded. -/
def multiply (left right : Binary64) : Binary64 :=
  let negative := left.negative != right.negative
  if left.isNotANumber || right.isNotANumber then notANumber
  else if left.isInfinite || right.isInfinite then
    if left.magnitude = 0 ∨ right.magnitude = 0 then notANumber else infinity negative
  else
    let (first, firstExponent) := left.signedParts
    let (second, secondExponent) := right.signedParts
    ofScaled negative (first * second) (firstExponent + secondExponent)

/-- The number with the other sign. -/
def opposite (value : Binary64) : Binary64 := ofMagnitude (!value.negative) value.magnitude

/-- The integer a finite number equals, if it is whole. -/
def toInt? (value : Binary64) : Option Int :=
  if infinityMagnitude ≤ value.magnitude then none
  else
    let (significand, exponent) := value.parts
    let scaled := scaleByTwo significand 1 exponent
    if scaled.1 % scaled.2 = 0 then
      let size : Int := (scaled.1 / scaled.2 : Nat)
      some (if value.negative then -size else size)
    else none

/-- The nearest integer to the magnitude of a finite number, a half to the even one. -/
def roundedMagnitude (value : Binary64) : Nat :=
  let (significand, exponent) := value.parts
  let scaled := scaleByTwo significand 1 exponent
  roundHalfEven scaled.1 scaled.2

/-- The number is above zero. A word that is no number is not. -/
def isAboveZero (value : Binary64) : Bool :=
  !value.isNotANumber && !value.negative && value.magnitude != 0

/-- The number is zero or below. A word that is no number is not. -/
def notAboveZero (value : Binary64) : Bool :=
  !value.isNotANumber && (value.negative || value.magnitude == 0)

end Binary64

end TemplateBundle.Decimal
