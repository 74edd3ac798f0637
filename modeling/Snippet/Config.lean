import Snippet.Json.Record

/-!
# Configuration

The names and texts that conversions write where their input has none. A configuration is read from
a JSON record in which every field may be left out.
-/

namespace Snippet

open Json (Mismatch)

/-- The names and texts that conversions need beside their input. -/
structure Config where
  sqlTableName : Text := "my_table"
  rootTypeName : Text := "RootObject"
  componentName : Text := "SvgComponent"
  /-- The classes that a component has unless it is given others. -/
  tailwindClass : Text := "w-6 h-6"
  /-- The address of a request whose command line quotes none. -/
  placeholderUrl : Text := "https://api.example.com/data"
  deriving DecidableEq, Repr, Inhabited

namespace Config

def fields : List Json.Field :=
  [.of "sqlTableName" Json.asText, .of "rootTypeName" Json.asText,
   .of "componentName" Json.asText, .of "tailwindClass" Json.asText,
   .of "placeholderUrl" Json.asText]

/-- The text of a member, or a default if there is no such member. -/
def textOr (default : Text) (name : Text) (members : Json.Members) : Except Mismatch Text :=
  match Table.get? name members with
  | some value => Json.asText value
  | none => .ok default

def ofMembers (members : Json.Members) : Except Mismatch Config := do
  -- The order of the fields decides which mismatch is reported when there are several.
  let base : Config := {}
  let sqlTableName ← textOr base.sqlTableName "sqlTableName" members
  let rootTypeName ← textOr base.rootTypeName "rootTypeName" members
  let componentName ← textOr base.componentName "componentName" members
  let tailwindClass ← textOr base.tailwindClass "tailwindClass" members
  let placeholderUrl ← textOr base.placeholderUrl "placeholderUrl" members
  pure { sqlTableName, rootTypeName, componentName, tailwindClass, placeholderUrl }

def ofJson : Json → Except Mismatch Config :=
  Json.readRecord "ConvertConfig" fields ofMembers

def toJson (config : Config) : Json :=
  .object
    [("sqlTableName", .string config.sqlTableName), ("rootTypeName", .string config.rootTypeName),
     ("componentName", .string config.componentName),
     ("tailwindClass", .string config.tailwindClass),
     ("placeholderUrl", .string config.placeholderUrl)]

end Config

end Snippet
