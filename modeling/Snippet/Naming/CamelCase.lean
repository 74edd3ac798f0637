import Snippet.Text.Basic

/-!
# Camel case

A hyphenated property name in camel case: each hyphen that stands before a small ASCII letter
disappears and the letter becomes a capital. Other hyphens stay.
-/

namespace Snippet.Naming

def camelCase : Text → Text
  | [] => []
  | [c] => [c]
  | c :: d :: rest =>
    if c = '-' && d.isLower then d.toUpper :: camelCase rest else c :: camelCase (d :: rest)

end Snippet.Naming
