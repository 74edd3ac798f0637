import Snippet.Number.Binary64
import Snippet.Text.Basic

/-!
# Reading decimal numbers

A number in a style sheet is an optional sign and then either one of the words `inf`, `infinity`
and `nan`, in any case, or digits with an optional point and an optional exponent. There must be a
digit before or after the point and a digit in the exponent. The number read is the one of the
binary64 format that is nearest to the decimal value.
-/

namespace Snippet.Number

def digitsValue (digits : Text) : Nat :=
  Nat.ofDigitChars 10 digits 0

/-- A sign at the start of a text, true for a minus, and what follows it. -/
def readSign : Text → Bool × Text
  | [] => (false, [])
  | c :: rest =>
    if c = '-' then (true, rest) else if c = '+' then (false, rest) else (false, c :: rest)

/-- The whole and the fractional digits at the start of a text, and what follows them. -/
def readMantissa (t : Text) : (Text × Text) × Text :=
  let whole := t.takeWhile Char.isDigit
  match t.dropWhile Char.isDigit with
  | [] => ((whole, []), [])
  | c :: rest =>
    if c = '.' then ((whole, rest.takeWhile Char.isDigit), rest.dropWhile Char.isDigit)
    else ((whole, []), c :: rest)

/-- The exponent that a text writes; the empty text stands for zero. -/
def readExponent? : Text → Option Int
  | [] => some 0
  | c :: rest =>
    if c = 'e' || c = 'E' then
      let (negative, digits) := readSign rest
      if digits.isEmpty || !digits.all Char.isDigit then none
      else if negative then some (-digitsValue digits) else some (digitsValue digits)
    else none

/-- The number nearest to a signed decimal `coefficient * 10 ^ exponent`. A power of ten that is far
outside the range of the format decides without being computed. -/
def Binary64.ofDecimal (negative : Bool) (coefficient : Nat) (exponent : Int) : Binary64 :=
  if coefficient = 0 then .finite negative 0 (-1074)
  else if 400 < exponent then .infinite negative
  -- A coefficient is below ten to one more than its binary logarithm.
  else if exponent < -400 - (coefficient.log2 : Int) then .finite negative 0 (-1074)
  else
    .ofRatio negative (coefficient * Nat.pow 10 exponent.toNat) (Nat.pow 10 (-exponent).toNat)

/-- The magnitude that a text without a sign writes, with the sign put in front. -/
def readMagnitude? (negative : Bool) (t : Text) : Option Binary64 :=
  let word := t.lowerAscii
  if word = "nan".toList then some .nan
  else if word = "inf".toList || word = "infinity".toList then some (.infinite negative)
  else
    let ((whole, fraction), rest) := readMantissa t
    if whole.isEmpty && fraction.isEmpty then none
    else
      (readExponent? rest).map fun exponent =>
        .ofDecimal negative (digitsValue (whole ++ fraction)) (exponent - fraction.length)

def Binary64.parse? (t : Text) : Option Binary64 :=
  let (negative, magnitude) := readSign t
  readMagnitude? negative magnitude

end Snippet.Number
