import Snippet.Number.Binary64

/-!
# Shortest decimals

The decimal that stands for a binary64 number: of all decimals that are nearer to it than to any
other number of the format, one with the fewest digits is taken, and of those the one nearest to
the number itself. Of two equally near ones the even one is taken, as in every rounding of the
format.

For each count of digits the search looks at the two neighbours of the number on the grid of
decimals with that many digits.
-/

namespace Snippet.Number

/-- A decimal number: `coefficient * 10 ^ exponent`. -/
structure Decimal where
  coefficient : Nat
  exponent : Int
  deriving DecidableEq, Repr

namespace Binary64

/-- The reals that round to a positive number, measured in quarters of its last place: the number
itself, the bounds of the interval, and whether the bounds belong to it. The gap below a power of
two is half as wide as the gap above it. -/
structure Neighbourhood where
  low : Nat
  value : Nat
  high : Nat
  closed : Bool
  exponent : Int

def neighbourhood (mantissa : Nat) (exponent : Int) : Neighbourhood where
  low := if mantissa = Nat.pow 2 52 ∧ -1074 < exponent then 4 * mantissa - 1 else 4 * mantissa - 2
  value := 4 * mantissa
  high := 4 * mantissa + 2
  -- A tie goes to the even mantissa, so the bounds belong to the numbers that have one.
  closed := mantissa % 2 = 0
  exponent := exponent - 2

/-- A decimal and a number of quarters, brought to a common denominator so that they can be compared
as natural numbers. -/
def Neighbourhood.scaled (n : Neighbourhood) (quarters : Nat) (d : Decimal) : Nat × Nat :=
  (quarters * Nat.pow 2 n.exponent.toNat * Nat.pow 10 (-d.exponent).toNat,
    d.coefficient * Nat.pow 10 d.exponent.toNat * Nat.pow 2 (-n.exponent).toNat)

def Neighbourhood.holds (n : Neighbourhood) (d : Decimal) : Bool :=
  let (low, scaledLow) := n.scaled n.low d
  let (high, scaledHigh) := n.scaled n.high d
  if n.closed then low ≤ scaledLow && scaledHigh ≤ high
  else low < scaledLow && scaledHigh < high

/-- The greatest exponent of ten whose power is at most the number, found from below among the
exponents that the format can reach. -/
def Neighbourhood.floorLog10 (n : Neighbourhood) : Int :=
  -- The exponents from -325 on; no number of the format reaches `10 ^ 309`.
  let atMost (k : Nat) : Bool :=
    let (value, scaled) := n.scaled n.value ⟨1, (k : Int) - 325⟩
    scaled ≤ value
  (((List.range 640).takeWhile atMost).length : Int) - 326

/-- The decimal with a given last place that is nearest to the number among those in the
neighbourhood; of two equally near ones the one with the even coefficient. -/
def Neighbourhood.onGrid (n : Neighbourhood) (place : Int) : Option Decimal :=
  let (num, den) := n.scaled n.value ⟨1, place⟩
  let below : Decimal := ⟨num / den, place⟩
  let above : Decimal := ⟨num / den + 1, place⟩
  -- Zero is on every grid, but it stands for no positive number.
  match n.holds below && 0 < below.coefficient, n.holds above with
  | true, true => some ⟨roundDiv num den, place⟩
  | true, false => some below
  | false, true => some above
  | false, false => none

/-- The shortest decimal of a positive number; seventeen digits always suffice. -/
def shortest (mantissa : Nat) (exponent : Int) : Decimal :=
  let n := neighbourhood mantissa exponent
  let top := n.floorLog10
  ((List.range 17).findSome? fun (digits : Nat) => n.onGrid (top - digits)).getD ⟨0, 0⟩

end Binary64

end Snippet.Number
