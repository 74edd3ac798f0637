import Snippet.Schema.Field
import Snippet.Text.Identifier

/-!
# Schema declarations

The fields of an object written as a declaration in one of four schema languages. A declaration
without fields stands on one line; otherwise every field has a line of its own.
-/

namespace Snippet.Schema

/-- A schema language; a table declaration also needs the name of the table. -/
inductive Dialect where
  | zod
  | typebox
  | mongoose
  | sql (table : Text)
  deriving DecidableEq, Repr

namespace Dialect

def opening : Dialect → Text
  | zod => "const schema = z.object(\x7b"
  | typebox => "const schema = Type.Object(\x7b"
  | mongoose => "const schema = new mongoose.Schema(\x7b"
  | sql table => "CREATE TABLE " ++ table ++ " ("

def closing : Dialect → Text
  | sql _ => ");"
  | _ => "\x7d);"

def typeName : Dialect → FieldKind → Text
  | zod, .number => "z.number()"
  | zod, .text => "z.string()"
  | typebox, .number => "Type.Number()"
  | typebox, .text => "Type.String()"
  | mongoose, .number => "Number"
  | mongoose, .text => "String"
  | sql _, .number => "INT"
  | sql _, .text => "VARCHAR(255)"

/-- The text of a field: a column is its key and its type, an entry has a colon between them. -/
def fieldText : Dialect → Field → Text
  | sql table, (key, kind) => key ++ " " ++ typeName (sql table) kind
  | dialect, (key, kind) => Text.propertyKey key ++ ": " ++ typeName dialect kind

def declaration (dialect : Dialect) (fields : List Field) : Text :=
  if fields.isEmpty then dialect.opening ++ dialect.closing
  else
    dialect.opening ++ "\n" ++
      Text.join ",\n" (fields.map fun field => "  " ++ dialect.fieldText field) ++
      "\n" ++ dialect.closing

end Dialect

end Snippet.Schema
