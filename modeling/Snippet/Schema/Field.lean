import Snippet.Json.Basic

/-!
# Fields of a schema

A schema knows two types only: a member of an object whose value is a number is a number field, and
every other member is a text field.
-/

namespace Snippet.Schema

inductive FieldKind where
  | number
  | text
  deriving DecidableEq, Repr

def FieldKind.of (value : Json) : FieldKind :=
  if value.isNumber then .number else .text

abbrev Field := Text × FieldKind

/-- The fields of an object in the order of its members. -/
def classify (members : Json.Members) : List Field :=
  members.map fun member => (member.1, .of member.2)

end Snippet.Schema
