import Snippet.Json.Basic
import Snippet.Text.Quoted

/-!
# Compact JSON text

The text of a JSON value without any blank.
-/

namespace Snippet.Json

mutual

def compact : Json → Text
  | null => "null"
  | bool true => "true"
  | bool false => "false"
  | number n => n.text
  | string s => Text.quote s
  | array elements => '[' :: (Text.join [','] (compactElements elements) ++ [']'])
  | object members => '{' :: (Text.join [','] (compactMembers members) ++ ['}'])

def compactElements : List Json → List Text
  | [] => []
  | element :: rest => compact element :: compactElements rest

def compactMembers : List (Text × Json) → List Text
  | [] => []
  | (key, value) :: rest => (Text.quote key ++ ':' :: compact value) :: compactMembers rest

end

end Snippet.Json
