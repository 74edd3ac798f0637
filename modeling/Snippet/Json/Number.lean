import Snippet.Number.Notation
import Snippet.Number.Reader

/-!
# JSON numbers

A number keeps what was written: its sign, its whole part, its fractional digits and its exponent.
Its value is an integer if it has neither fraction nor exponent and fits into 64 bits, and a
binary64 number otherwise. That number is reached in steps, each of them rounded: the leading
digits that fit into a 64-bit word are converted, and the result is multiplied or divided by a power
of ten. A number whose value would be infinite has no value.
-/

namespace Snippet.Json

open Snippet.Number

abbrev Digit := Fin 10

/-- A number as it is written. -/
structure Number where
  negative : Bool
  whole : Nat
  fraction : List Digit
  exponent : Option Int
  deriving DecidableEq, Repr, Inhabited

/-- What a number stands for. -/
inductive Quantity where
  | integer (value : Int)
  | float (value : Binary64)
  deriving DecidableEq, Repr

namespace Number

def ofInt (n : Int) : Number :=
  ⟨n < 0, n.natAbs, [], none⟩

/-! ## Writing -/

def text (n : Number) : Text :=
  (if n.negative then ['-'] else []) ++ natText n.whole ++
    (if n.fraction.isEmpty then [] else '.' :: n.fraction.map fun (d : Digit) => Nat.digitChar d) ++
    match n.exponent with
    | none => []
    | some e => 'e' :: ((if e < 0 then ['-'] else []) ++ natText e.natAbs)

/-! ## Value -/

/-- The leading digits of a whole part that fit into a 64-bit word, and how many digits follow
them. -/
def leading (whole : Nat) : Nat × Nat :=
  if whole < Nat.pow 2 64 then (whole, 0)
  else
    let (head, dropped) := leading (whole / 10)
    (head, dropped + 1)
termination_by whole
decreasing_by
  have positive : 0 < Nat.pow 2 64 := by decide
  omega

/-- A significand extended by fractional digits for as long as it fits into a 64-bit word, and the
number of digits that were taken. -/
def extend (significand : Nat) : List Digit → Nat × Nat
  | [] => (significand, 0)
  | d :: rest =>
    if significand * 10 + d < Nat.pow 2 64 then
      let (extended, taken) := extend (significand * 10 + d) rest
      (extended, taken + 1)
    -- The first digit that does not fit ends the significand; no digit behind it is rounded in.
    else (significand, 0)

/-- The significand of a number and the power of ten to scale it by. -/
def scientific (n : Number) : Nat × Int :=
  let (head, dropped) := leading n.whole
  let (significand, taken) := extend head n.fraction
  (significand, (dropped : Int) - taken + n.exponent.getD 0)

/-- The power of ten nearest to the exact one. -/
def powerOfTen (n : Nat) : Binary64 :=
  .ofNat (Nat.pow 10 n)

/-- A number divided by a power of ten, in steps of at most 308 decimal places. -/
def scaleDown (x : Binary64) (places : Nat) : Binary64 :=
  if places ≤ 308 then x.div (powerOfTen places)
  else if x.isZero then x
  else scaleDown (x.div (powerOfTen 308)) (places - 308)
termination_by places

/-- A significand scaled by a power of ten, unless the result is infinite. -/
def scaled? (significand : Nat) (exponent : Int) : Option Binary64 :=
  let x := Binary64.ofNat significand
  -- Zero has a value under every exponent.
  if significand = 0 then some x
  else if exponent < 0 then some (scaleDown x (-exponent).toNat)
  else if 308 < exponent then none
  else
    let product := x.mul (powerOfTen exponent.toNat)
    if product.isFinite then some product else none

/-- Whether a number is written as an integer and fits into 64 bits, with a sign if it is negative
and without one otherwise; the negative zero is no integer. -/
def isInteger (n : Number) : Bool :=
  n.fraction.isEmpty && n.exponent.isNone &&
    if n.negative then 0 < n.whole && n.whole ≤ Nat.pow 2 63 else n.whole < Nat.pow 2 64

def value? (n : Number) : Option Quantity :=
  if n.isInteger then some (.integer (if n.negative then -n.whole else n.whole))
  else
    let (significand, exponent) := n.scientific
    (scaled? significand exponent).map fun x => .float (if n.negative then x.negate else x)

end Number

end Snippet.Json
