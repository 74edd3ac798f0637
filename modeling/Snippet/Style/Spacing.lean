import Snippet.Number.Notation
import Snippet.Number.Reader

/-!
# The spacing scale

A length becomes a class of the spacing scale, whose step is four pixels. A length of one pixel has
a class of its own, and a length between the steps is written into the class as it stands. The
class of a length with a minus starts with a minus, unless the length is zero.
-/

namespace Snippet.Style

open Snippet.Number

/-- The length of a text in pixels: a plain zero, a number of pixels, or a number of root font
sizes of sixteen pixels. -/
def pixels? (magnitude : Text) : Option Binary64 :=
  if magnitude = ['0'] then some (.ofNat 0)
  else
    match Text.dropEnding? "px" magnitude with
    | some number => Binary64.parse? number
    | none =>
      match Text.dropEnding? "rem" magnitude with
      | some number => (Binary64.parse? number).map (·.mul (.ofNat 16))
      | none => none

def step? (pixels : Binary64) : Option Text :=
  if pixels.equals 1 then some "px"
  -- The word of a negative number is zero, so such a number has the step of zero.
  else if pixels.isWhole && pixels.toWord % 4 = 0 then some (natText (pixels.toWord / 4))
  else none

/-- The minus of a value, true if there is one, and what it stands before. -/
def splitSign : Text → Bool × Text
  | [] => (false, [])
  | c :: rest => if c = '-' then (true, rest) else (false, c :: rest)

def magnitudeClass (stem : Text) (negative : Bool) (magnitude : Text) (pixels : Binary64) : Text :=
  (if negative && !pixels.isZero then ['-'] else []) ++ stem ++ "-" ++
    match step? pixels with
    | some step => step
    | none => "[" ++ magnitude ++ "]"

/-- The spacing class of a value under a stem. A minus is refused unless the property is signed. -/
def spacingClass (stem : Text) (signed : Bool) (value : Text) : Option Text :=
  if value = "auto".toList then some (stem ++ "-auto")
  else
    -- Only one sign is taken off; another one is read as part of the number.
    let (negative, magnitude) := splitSign value
    if negative && !signed then none
    else (pixels? magnitude).map (magnitudeClass stem negative magnitude)

/-- The sides that a shorthand of one to four values speaks of, each with its value. -/
def boxSides (stem : Text) : List Text → List (Text × Text)
  | [all] => [(stem, all)]
  | [y, x] => [(stem ++ "y", y), (stem ++ "x", x)]
  | [t, x, b] => [(stem ++ "t", t), (stem ++ "x", x), (stem ++ "b", b)]
  | [t, r, b, l] => [(stem ++ "t", t), (stem ++ "r", r), (stem ++ "b", b), (stem ++ "l", l)]
  | _ => []

/-- The spacing classes of a shorthand; a side whose value has no class is left out. -/
def boxClasses (stem : Text) (signed : Bool) (value : Text) : List Text :=
  (boxSides stem (Text.words value)).filterMap fun side => spacingClass side.1 signed side.2

end Snippet.Style
