import Snippet.Json.Number
import Snippet.Table

/-!
# JSON values

A JSON document as a value. The members of an object are kept in the order of their keys, each key
once.
-/

namespace Snippet

inductive Json where
  | null
  | bool (value : Bool)
  | number (value : Json.Number)
  | string (value : Text)
  | array (elements : List Json)
  | object (members : List (Text × Json))
  deriving Inhabited

namespace Json

abbrev Members := Table Json

def isNumber : Json → Bool
  | number _ => true
  | _ => false

/-- The kind of a value, as a message names it. -/
def kindName : Json → Text
  | null => "null"
  | bool _ => "a boolean"
  | number _ => "a number"
  | string _ => "a string"
  | array _ => "an array"
  | object _ => "an object"

end Json

end Snippet
