import TemplateBundle.Decimal.Shortest

/-!
Contract: numbers as text.

Owns: which numbers are written in positional notation and which with an exponent, the
names of the words that are no finite numbers, and whole numbers without a fraction.
-/

namespace TemplateBundle.Decimal

/-- How a number is laid out. -/
structure NumberLayout where
  /-- The least position of the decimal point that is written in positional notation. -/
  leastPoint : Int
  /-- The greatest position of the decimal point that is written in positional notation. -/
  greatestPoint : Int
  /-- The name of positive infinity. -/
  infinityName : String
  /-- The name of the word that is no number. -/
  notANumberName : String

/-- Numbers in messages: positional from one ten-thousandth up to sixteen digits. -/
def messageLayout : NumberLayout := ⟨-3, 16, "inf", "nan"⟩

/-- Numbers in documents: as in messages, with the names that the documents use. -/
def documentLayout : NumberLayout := ⟨-3, 16, "Infinity", "NaN"⟩

/-- The decimal digits of a natural number. -/
def digitsOf (value : Nat) : List Char := Nat.toDigits 10 value

/-- Digits with the decimal point after the first `point` of them. -/
def positional (digits : List Char) (point : Int) : List Char :=
  if point ≤ 0 then '0' :: '.' :: List.replicate (-point).toNat '0' ++ digits
  else if (digits.length : Int) ≤ point then
    digits ++ List.replicate (point.toNat - digits.length) '0' ++ ['.', '0']
  else digits.take point.toNat ++ '.' :: digits.drop point.toNat

/-- Digits with an exponent of at least two places. -/
def withExponent (digits : List Char) (point : Int) : List Char :=
  let exponent := point - 1
  let size := digitsOf exponent.natAbs
  let fraction := match digits.drop 1 with
    | [] => []
    | rest => '.' :: rest
  digits.take 1 ++ fraction ++ 'e' :: (if exponent < 0 then '-' else '+') ::
    List.replicate (2 - size.length) '0' ++ size

/-- The text of a number in a layout: the fewest digits that read back. -/
def NumberLayout.render (layout : NumberLayout) (value : Binary64) : String :=
  if value.isNotANumber then layout.notANumberName
  else
    let sign := if value.negative then "-" else ""
    if value.isInfinite then sign ++ layout.infinityName
    else
      let (count, tens) := shortest value
      let digits := digitsOf count
      let point : Int := if count = 0 then 1 else (digits.length : Int) + tens
      let text := if layout.leastPoint ≤ point ∧ point ≤ layout.greatestPoint
        then positional digits point else withExponent digits point
      sign ++ String.ofList text

/-- The text of a number rounded to a whole one, a half to the even neighbour. -/
def renderWhole (value : Binary64) : String :=
  if value.isNotANumber then "nan"
  else
    let sign := if value.negative then "-" else ""
    if value.isInfinite then sign ++ "inf"
    else sign ++ String.ofList (digitsOf value.roundedMagnitude)

end TemplateBundle.Decimal
