import Snippet.Style.Declaration
import Snippet.Table
import Snippet.Naming.CamelCase
import Snippet.Text.Identifier

/-!
# Style objects

A style sheet as an object literal. Each line that holds a declaration gives an entry: the key is
the property in camel case, the value the declared one as a text. A key that comes twice keeps its
first place and takes its last value. An inline style is a list of entries in which every
declaration is kept.
-/

namespace Snippet.Style

abbrev Entries := Table Text

def Declaration.entry (d : Declaration) : Text × Text :=
  (Naming.camelCase d.property, d.value)

def entryText (entry : Text × Text) : Text :=
  Text.propertyKey entry.1 ++ ": " ++ Text.quoteSingle entry.2

/-- The entries that the lines of a style sheet declare, each key once. -/
def sheetEntries (sheet : Text) : Entries :=
  Table.ofEntries (((Text.lines sheet).filterMap Declaration.parse?).map Declaration.entry)

/-- The text of an object literal with one entry on a line. -/
def objectLiteral (entries : Entries) : Text :=
  if entries.isEmpty then "\x7b\x7d"
  else
    "\x7b\n" ++ Text.join ",\n" (entries.map fun entry => "  " ++ entryText entry) ++ "\n\x7d"

def toObjectLiteral (sheet : Text) : Text :=
  objectLiteral (sheetEntries sheet)

/-- The entries that an inline style declares between semicolons, in order. -/
def inlineEntries (style : Text) : List (Text × Text) :=
  ((Text.split (· == ';') style).filterMap Declaration.parse?).map Declaration.entry

def inlineObject (style : Text) : Text :=
  Text.join ", " ((inlineEntries style).map entryText)

end Snippet.Style
