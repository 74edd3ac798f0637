import Snippet.Markup.Component
import Snippet.Text.Pattern
import Snippet.Text.Quoted

/-!
# Drawings

A drawing in SVG markup as a component. The markup is not parsed: each edit changes the first
place where its pattern applies. A text without an opening `<svg` is no drawing.
-/

namespace Snippet.Markup.Svg

open Snippet.Text

/-- The start of the element that makes a text a drawing. -/
def openingTag : Text := "<svg"

/-- The drawing in a text: the text without the blanks around it, if it has the opening tag. -/
def ofText? (input : Text) : Option Text :=
  let svg := trim input
  if contains openingTag svg then some svg else none

/-- The hyphenated attributes, each with its name in a component. -/
def attributeNames : List (Text × Text) :=
  [("stroke-width", "strokeWidth"), ("stroke-linecap", "strokeLinecap"),
   ("stroke-linejoin", "strokeLinejoin")]

def renameAttributes (svg : Text) : Text :=
  attributeNames.foldl (fun t names => replaceFirst names.1 names.2 t) svg

def addAttribute (added svg : Text) : Text :=
  replaceFirst openingTag (openingTag ++ " " ++ added) svg

/-! ## Attributes with a value -/

def attributeNamed (name : Text) : Pattern Text :=
  Pattern.after (name ++ "=") Pattern.quotation

/-- The markup without the first attribute of a given name that follows a blank; the blanks before
it go with it. -/
def removeAttribute (name svg : Text) : Text :=
  (Pattern.afterBlanks (attributeNamed name)).replaceFirst (fun _ => []) svg

def attributeText (name value : Text) : Text :=
  name ++ "=\"" ++ value ++ "\""

/-- The markup with an attribute set: the first one of that name that starts a word is replaced,
and if there is none the attribute is added. -/
def setAttribute (name value svg : Text) : Text :=
  let p := Pattern.atWordStart (attributeNamed name)
  match p.find svg with
  | some _ => p.replaceFirst (fun _ => attributeText name value) svg
  | none => addAttribute (attributeText name value) svg

/-! ## Components -/

/-- The markup that passes all properties of its component on. -/
def spreadProps (svg : Text) : Text :=
  addAttribute "\x7b...props\x7d" (renameAttributes svg)

/-- The markup that takes its size and colour from classes. -/
def styleByClass (svg : Text) : Text :=
  let svg := removeAttribute "height" (removeAttribute "width" (renameAttributes svg))
  -- The stroke is set first, so the pattern of the fill is tried on its text as well.
  let svg := setAttribute "fill" "none" (setAttribute "stroke" "currentColor" svg)
  addAttribute "className=\x7bclassName\x7d" svg

def classParameter (classes : Text) : Text :=
  "(\x7b className = " ++ quote classes ++ " \x7d)"

/-- A drawing as a component that takes any properties. -/
def toComponent? (name input : Text) : Option Text :=
  (ofText? input).map fun svg => component name "(props)" (spreadProps svg)

/-- A drawing as a component that takes classes. -/
def toStyledComponent? (name classes input : Text) : Option Text :=
  (ofText? input).map fun svg => component name (classParameter classes) (styleByClass svg)

end Snippet.Markup.Svg
