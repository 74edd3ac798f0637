/-!
# Binary64 numbers

The numbers of the binary64 format with exact values: a finite number is a signed natural number
times a power of two. Every operation computes the exact result as a quotient of natural numbers
and rounds it once to the nearest number of the format, a tie going to the even mantissa.

`roundDiv_mul` says that rounding an exact quotient changes nothing.
-/

namespace Snippet.Number

/-- The natural number nearest to a quotient; a tie goes to the even one. -/
def roundDiv (num den : Nat) : Nat :=
  let quotient := num / den
  let twice := 2 * (num % den)
  if twice < den then quotient
  else if den < twice then quotient + 1
  else quotient + quotient % 2

theorem roundDiv_mul {den : Nat} (positive : 0 < den) (n : Nat) : roundDiv (n * den) den = n := by
  simp [roundDiv, Nat.mul_div_cancel n positive, positive]

/-- A number of the binary64 format. The finite number `finite negative mantissa exponent` has the
magnitude `mantissa * 2 ^ exponent`; both zeros are finite. -/
inductive Binary64 where
  | finite (negative : Bool) (mantissa : Nat) (exponent : Int)
  | infinite (negative : Bool)
  | nan
  deriving DecidableEq, Repr

namespace Binary64

/-! ## Rounding -/

/-- The exponent of the greatest power of two that is at most a quotient of positive numbers. -/
def floorLog (num den : Nat) : Int :=
  -- The difference of the logarithms is the exponent or one more than it.
  let guess : Int := num.log2 - den.log2
  if den * Nat.pow 2 guess.toNat ≤ num * Nat.pow 2 (-guess).toNat then guess else guess - 1

/-- The exponent of the last place that the format has for a quotient of positive numbers: 53
binary digits in all, and no place below `2 ^ -1074`. -/
def lastPlace (num den : Nat) : Int :=
  max (-1074) (floorLog num den - 52)

/-- The number with a rounded mantissa: a mantissa that has grown to 54 digits moves up one place,
and a magnitude of at least `2 ^ 1024` is infinite. -/
def normalize (negative : Bool) (mantissa : Nat) (exponent : Int) : Binary64 :=
  -- Rounding up from 53 digits reaches `2 ^ 53` at most.
  let grown := mantissa = Nat.pow 2 53
  let mantissa := if grown then Nat.pow 2 52 else mantissa
  let exponent := if grown then exponent + 1 else exponent
  -- A mantissa of 53 digits at this exponent is the greatest one below `2 ^ 1024`.
  if exponent ≤ 971 then finite negative mantissa exponent else infinite negative

/-- The number nearest to a signed quotient of natural numbers. -/
def ofRatio (negative : Bool) (num den : Nat) : Binary64 :=
  if num = 0 then finite negative 0 (-1074)
  else
    let place := lastPlace num den
    normalize negative
      (roundDiv (num * Nat.pow 2 (-place).toNat) (den * Nat.pow 2 place.toNat)) place

def ofNat (n : Nat) : Binary64 :=
  ofRatio false n 1

/-! ## Exact values -/

/-- The magnitude `mantissa * 2 ^ exponent` as a quotient of natural numbers. -/
def ratio (mantissa : Nat) (exponent : Int) : Nat × Nat :=
  (mantissa * Nat.pow 2 exponent.toNat, Nat.pow 2 (-exponent).toNat)

/-- Whether a number is a zero of either sign. -/
def isZero : Binary64 → Bool
  | finite _ mantissa _ => mantissa = 0
  | _ => false

def isFinite : Binary64 → Bool
  | finite .. => true
  | _ => false

/-- Whether a number equals a positive natural number. -/
def equals (n : Nat) : Binary64 → Bool
  | finite false mantissa exponent =>
    let (num, den) := ratio mantissa exponent
    num = n * den
  | _ => false

def isWhole : Binary64 → Bool
  | finite _ mantissa exponent =>
    let (num, den) := ratio mantissa exponent
    num % den = 0
  | _ => false

/-- The whole part of a number brought into the range of 64-bit words: a number below zero and the
value that is no number give zero, a number beyond the range its greatest word. -/
def toWord : Binary64 → Nat
  | finite false mantissa exponent =>
    let (num, den) := ratio mantissa exponent
    min (num / den) (Nat.pow 2 64 - 1)
  | infinite false => Nat.pow 2 64 - 1
  | _ => 0

/-- Whether a number lies between zero and one, both included; the negative zero does. -/
def isUnit : Binary64 → Bool
  | finite negative mantissa exponent =>
    let (num, den) := ratio mantissa exponent
    mantissa = 0 || (!negative && num ≤ den)
  | _ => false

/-- The natural number nearest to the magnitude of a number; a half is rounded up. -/
def roundHalfUp : Binary64 → Nat
  | finite _ mantissa exponent =>
    let (num, den) := ratio mantissa exponent
    (2 * num + den) / (2 * den)
  | _ => 0

def negate : Binary64 → Binary64
  | finite negative mantissa exponent => finite (!negative) mantissa exponent
  | infinite negative => infinite (!negative)
  | nan => nan

/-! ## Arithmetic -/

def mul : Binary64 → Binary64 → Binary64
  | finite s m e, finite s' m' e' =>
    let (num, den) := ratio m e
    let (num', den') := ratio m' e'
    ofRatio (s != s') (num * num') (den * den')
  | infinite s, finite s' m _ => if m = 0 then nan else infinite (s != s')
  | finite s m _, infinite s' => if m = 0 then nan else infinite (s != s')
  | infinite s, infinite s' => infinite (s != s')
  | _, _ => nan

def div : Binary64 → Binary64 → Binary64
  | finite s m e, finite s' m' e' =>
    let (num, den) := ratio m e
    let (num', den') := ratio m' e'
    if m' = 0 then (if m = 0 then nan else infinite (s != s'))
    else ofRatio (s != s') (num * den') (den * num')
  | infinite s, finite s' _ _ => infinite (s != s')
  | finite s _ _, infinite s' => finite (s != s') 0 (-1074)
  | _, _ => nan

end Binary64

end Snippet.Number
