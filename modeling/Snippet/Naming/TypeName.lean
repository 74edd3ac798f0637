import Snippet.Text.Basic
import Snippet.Unicode.Numeral
import Snippet.Unicode.Upper

/-!
# Type names

The name of a type is made from the key under which its first value was found. The letters and
numerals of the key are kept, each run of them starting with a capital, and what stands before the
first letter is dropped. The elements of an array are named by the singular of the array's name.
-/

namespace Snippet.Naming

/-- The alphanumeric characters of a key; the first one of each run is made a capital. The flag says
whether the next character to be kept starts a run. -/
def capitalizeRuns : Bool → Text → Text
  | _, [] => []
  | starts, c :: rest =>
    if Unicode.isAlphanumeric c then
      (if starts then Unicode.upper c else [c]) ++ capitalizeRuns false rest
    else capitalizeRuns true rest

def capitalize : Text → Text
  | [] => []
  | c :: rest => Unicode.upper c ++ rest

/-- The type name of a key; empty if the key has no letter. -/
def typeName (key : Text) : Text :=
  capitalize ((capitalizeRuns true key).dropWhile fun c => !Unicode.isAlphabetic c)

/-- The singular of a name: `ies` after some other text becomes `y`, and a single final `s` after
some other text is dropped. -/
def singular (name : Text) : Text :=
  match Text.dropEnding? "ies" name with
  | some (c :: stem) => (c :: stem) ++ ['y']
  | _ =>
    if 1 < name.length && Text.hasEnding "s" name && !Text.hasEnding "ss" name then name.dropLast
    else name

end Snippet.Naming
