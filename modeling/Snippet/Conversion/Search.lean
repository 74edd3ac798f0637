import Snippet.Conversion.Basic
import Snippet.Text.LowerCase
import Snippet.Text.Pattern

/-!
# Searching conversions

The conversions grouped by category, in the order of the menu, and the part of the menu that a query
leaves. A conversion is kept if its label or the name of its category contains the query; blanks
around the query and the case of letters do not count. A group that loses all its conversions is
left out.
-/

namespace Snippet

/-- A category with some of its conversions. -/
structure Group where
  category : Category
  conversions : List Conversion
  deriving DecidableEq, Repr

namespace Conversion

def groups : List Group :=
  Category.all.map fun category => ⟨category, all.filter (·.category = category)⟩

/-- What is searched for: the query in lower case, without the blanks around it. -/
def needle (query : Text) : Text :=
  Text.lowerCase (Text.trim query)

def isFoundBy (c : Conversion) (needle : Text) : Bool :=
  Text.contains needle (Text.lowerCase c.label) ||
    Text.contains needle (Text.lowerCase c.category.name)

def search (query : Text) : List Group :=
  let needle := needle query
  (groups.map fun group =>
      { group with conversions := group.conversions.filter (·.isFoundBy needle) }).filter
    fun group => !group.conversions.isEmpty

end Conversion

end Snippet
