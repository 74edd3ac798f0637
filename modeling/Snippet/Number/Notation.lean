import Snippet.Number.Shortest
import Snippet.Text.Basic

/-!
# Written numbers

The text of a natural number is its decimal digits. The text of a binary64 number is that of its
shortest decimal: in positional notation, with a decimal point and at least one digit behind it, if
the first digit stands between the fifth place after the point and the sixteenth before it, and
otherwise with an exponent that always carries a sign.
-/

namespace Snippet.Number

def natText (n : Nat) : Text :=
  Nat.toDigits 10 n

def dropZeros (digits : Text) : Text :=
  (digits.reverse.dropWhile (· == '0')).reverse

namespace Decimal

/-- The exponent of ten at the first digit of a decimal other than zero. -/
def magnitude (d : Decimal) : Int :=
  d.exponent + (natText d.coefficient).length - 1

/-- A decimal in positional notation, with a decimal point and no needless zero at the end. -/
def positional (d : Decimal) : Text :=
  if 0 ≤ d.exponent then natText (d.coefficient * Nat.pow 10 d.exponent.toNat) ++ ['.', '0']
  else
    let places := (-d.exponent).toNat
    let digits := natText (d.coefficient % Nat.pow 10 places)
    let fraction := dropZeros (List.replicate (places - digits.length) '0' ++ digits)
    natText (d.coefficient / Nat.pow 10 places) ++
      '.' :: (if fraction.isEmpty then ['0'] else fraction)

def exponentText (exponent : Int) : Text :=
  'e' :: (if exponent < 0 then '-' else '+') :: natText exponent.natAbs

/-- A decimal in scientific notation: one digit before the point, and no point if no other digit
follows. -/
def scientific (d : Decimal) : Text :=
  match dropZeros (natText d.coefficient) with
  | digit :: next :: rest => digit :: '.' :: next :: rest ++ exponentText d.magnitude
  | digits => digits ++ exponentText d.magnitude

/-- The text of a decimal: positional from `10 ^ -5` up to, but without, `10 ^ 16`, and scientific
outside these bounds. -/
def text (d : Decimal) : Text :=
  if -5 ≤ d.magnitude && d.magnitude < 16 then d.positional else d.scientific

end Decimal

def Binary64.text : Binary64 → Text
  | .nan => "NaN"
  | .infinite negative => (if negative then ['-'] else []) ++ "inf"
  | .finite negative mantissa exponent =>
    (if negative then ['-'] else []) ++
      (if mantissa = 0 then ("0.0" : Text) else (shortest mantissa exponent).text)

end Snippet.Number
