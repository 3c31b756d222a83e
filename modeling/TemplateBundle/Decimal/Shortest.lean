import TemplateBundle.Decimal.Binary64

/-!
Contract: the shortest decimal numeral that reads back as a given binary number.

Owns: the interval of reals that round to the number, and the search for the first
decimal grid that meets it.
-/

namespace TemplateBundle.Decimal

/-- The reals that round to a number, all in quarters of `2 ^ exponent`, with the word on
whether the two ends belong to them. -/
structure RoundingInterval where
  low : Nat
  value : Nat
  high : Nat
  exponent : Int
  closed : Bool

/-- The interval around `significand * 2 ^ exponent`. Below a power of two the next number
is only half as far. -/
def RoundingInterval.around (significand : Nat) (exponent : Int) : RoundingInterval :=
  let step := if significand = twoTo 52 ∧ -1074 < exponent then 1 else 2
  { low := 4 * significand - step
    value := 4 * significand
    high := 4 * significand + 2
    exponent := exponent - 2
    closed := significand % 2 = 0 }

/-- Two ratios compared by cross-multiplication: `count * 10 ^ tens` against
`quarters * 2 ^ twos`, as natural numbers on a common scale. -/
def commonScale (count : Nat) (tens : Int) (quarters : Nat) (twos : Int) : Nat × Nat :=
  let left := count * tenTo tens.toNat * twoTo (-twos).toNat
  let right := quarters * twoTo twos.toNat * tenTo (-tens).toNat
  (left, right)

/-- A point of a decimal grid lies in the interval. -/
def RoundingInterval.holds (interval : RoundingInterval) (count : Nat) (tens : Int) : Bool :=
  let (left, low) := commonScale count tens interval.low interval.exponent
  let (right, high) := commonScale count tens interval.high interval.exponent
  if interval.closed then low ≤ left && right ≤ high else low < left && right < high

/-- The point of the grid of unit `10 ^ tens` next below the value. -/
def RoundingInterval.below (interval : RoundingInterval) (tens : Int) : Nat :=
  let (unit, value) := commonScale 1 tens interval.value interval.exponent
  value / unit

/-- The two neighbours of the value on a grid: the one that reads back, and of two the
nearer, a tie going to the even one. -/
def RoundingInterval.gridPoint? (interval : RoundingInterval) (tens : Int) : Option Nat :=
  let below := interval.below tens
  match interval.holds below tens, interval.holds (below + 1) tens with
  | false, false => none
  | true, false => some below
  | false, true => some (below + 1)
  | true, true =>
      let (unit, value) := commonScale 1 tens interval.value interval.exponent
      some (Binary64.roundHalfEven value unit)

/-- The first grid that meets the interval, from coarse to fine. -/
def RoundingInterval.search (interval : RoundingInterval) : Nat → Int → Nat × Int
  | 0, tens => (interval.below tens, tens)
  | fuel + 1, tens =>
      match interval.gridPoint? tens with
      | some count => if count = 0 then interval.search fuel (tens - 1) else (count, tens)
      | none => interval.search fuel (tens - 1)

/-- A numeral without the zeros at its end. -/
def dropZeros : Nat → Nat → Int → Nat × Int
  | 0, count, tens => (count, tens)
  | fuel + 1, count, tens =>
      if count ≠ 0 ∧ count % 10 = 0 then dropZeros fuel (count / 10) (tens + 1)
      else (count, tens)

/-- The shortest numeral `digits * 10 ^ exponent` that reads back as a finite number. -/
def shortest (value : Binary64) : Nat × Int :=
  let (significand, exponent) := value.parts
  if significand = 0 then (0, 0)
  else
    let interval := RoundingInterval.around significand exponent
    -- One more than the decimal exponent of the value: no coarser grid has a positive hit
    -- nearer than the grid of one digit.
    let bits : Int := (significand.log2 : Int) + exponent
    let top : Int := bits * 30103 / 100000 + 2
    let (count, tens) := interval.search 22 top
    dropZeros 20 count tens

end TemplateBundle.Decimal
