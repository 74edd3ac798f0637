import Snippet.Text.Identifier

/-!
# Types and interfaces

The types that are inferred from documents: scalars, arrays, and objects that are named by an
interface. An array type lists the types of its elements; the array of no type may only be empty.
-/

namespace Snippet.TypeScript

inductive TypeExpr where
  | null
  | boolean
  | number
  | string
  | array (members : List TypeExpr)
  | named (name : Text)
  deriving Inhabited

namespace TypeExpr

def arrayText : List Text → Text
  | [] => "any[]"
  | [member] => member ++ "[]"
  | members => "(" ++ Text.join " | " members ++ ")[]"

mutual

def text : TypeExpr → Text
  | null => "null"
  | boolean => "boolean"
  | number => "number"
  | string => "string"
  | array members => arrayText (texts members)
  | named name => name

def texts : List TypeExpr → List Text
  | [] => []
  | member :: rest => text member :: texts rest

end

theorem texts_eq_map (members : List TypeExpr) : texts members = members.map text := by
  induction members with
  | nil => rfl
  | cons member rest ih => simp [texts, ih]

end TypeExpr

abbrev Fields := List (Text × TypeExpr)

structure Interface where
  name : Text
  fields : Fields
  deriving Inhabited

/-- What an inference declares: an alias for a root that is no object, and interfaces in order. -/
structure Declarations where
  root : Option (Text × TypeExpr)
  interfaces : List Interface

/-! ## Writing -/

def fieldLine (field : Text × TypeExpr) : Text :=
  "  " ++ Text.propertyKey field.1 ++ ": " ++ field.2.text ++ ";\n"

def Interface.text (i : Interface) : Text :=
  "interface " ++ i.name ++ " \x7b\n" ++ i.fields.flatMap fieldLine ++ "\x7d"

def aliasText (entry : Text × TypeExpr) : Text :=
  "type " ++ entry.1 ++ " = " ++ entry.2.text ++ ";"

/-- The texts of all declarations, the alias first, with an empty line between them. -/
def Declarations.text (d : Declarations) : Text :=
  Text.join "\n\n" (d.root.toList.map aliasText ++ d.interfaces.map Interface.text)

end Snippet.TypeScript
