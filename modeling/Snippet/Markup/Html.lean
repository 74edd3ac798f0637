import Snippet.Style.ObjectLiteral
import Snippet.Text.Pattern

/-!
# Page markup

HTML markup as JSX. Three attributes are spelled differently there, and the first place of each is
changed: `class` and `for` get other names, and an inline style becomes a style object. An
attribute counts only if a blank stands before it.
-/

namespace Snippet.Markup.Html

open Snippet.Text

/-- Finds an attribute name with its equals sign after a blank. -/
def attributeStart (name : Text) : Pattern (Char × Unit) :=
  Pattern.afterBlank (Pattern.literal (name ++ "="))

def renameAttribute (name newName t : Text) : Text :=
  (attributeStart name).replaceFirst (fun found => found.1 :: (newName ++ "=")) t

/-- Finds an inline style in double quotation marks after a blank. -/
def styleAttribute : Pattern (Char × Text) :=
  Pattern.afterBlank (Pattern.after "style=" (Pattern.quotedBy '"'))

/-- The attribute that holds an inline style as an object. -/
def styleText (style : Text) : Text :=
  "style=\x7b\x7b" ++ Style.inlineObject style ++ "\x7d\x7d"

def replaceStyle (t : Text) : Text :=
  styleAttribute.replaceFirst (fun found => found.1 :: styleText found.2) t

def toJsx (t : Text) : Text :=
  replaceStyle (renameAttribute "for" "htmlFor" (renameAttribute "class" "className" t))

end Snippet.Markup.Html
