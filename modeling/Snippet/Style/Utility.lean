import Snippet.Style.Declaration
import Snippet.Style.Spacing
import Snippet.Table

/-!
# Utility classes

A style sheet as a list of utility classes. Every property that has such classes says how its value
is turned into them: by a table of keywords, by the spacing scale, as a colour or as an opacity.
Declarations are separated by line feeds, semicolons and braces; those without a class are left
out, and a class is listed once, where it first comes.

`mem_classList` says that the class list holds the classes of the declarations and no others.
-/

namespace Snippet.Style

open Snippet.Number

/-- How the value of a property is turned into classes. -/
inductive Utility where
  | keyword (classes : Table Text)
  /-- Keywords with their classes, and any other length on the spacing scale. -/
  | length (stem : Text) (signed : Bool) (keywords : Table Text)
  /-- Up to four lengths for the sides of a box. -/
  | box (stem : Text) (signed : Bool)
  | color (stem : Text)
  /-- An opacity between zero and one. -/
  | opacity

/-! ## Colours and opacity -/

def colorNames : Table Text :=
  [("white", "white"), ("#fff", "white"), ("#ffffff", "white"),
   ("black", "black"), ("#000", "black"), ("#000000", "black"),
   ("transparent", "transparent"), ("currentcolor", "current")]

def isHexDigit (c : Char) : Bool :=
  c.isDigit || ('a' ≤ c && c ≤ 'f') || ('A' ≤ c && c ≤ 'F')

/-- Whether a text is a hash sign followed by three or six hexadecimal digits. -/
def isHexColor : Text → Bool
  | [] => false
  | c :: digits =>
    c = '#' && (digits.length = 3 || digits.length = 6) && digits.all isHexDigit

def colorClass (stem value : Text) : Option Text :=
  match Table.get? value colorNames with
  | some name => some (stem ++ "-" ++ name)
  | none => if isHexColor value then some (stem ++ "-[" ++ value ++ "]") else none

/-- The class of an opacity whose nearest whole percentage is a multiple of five. -/
def opacityClass (value : Text) : Option Text :=
  match Binary64.parse? value with
  | none => none
  | some number =>
    if number.isUnit then
      let percent := (number.mul (.ofNat 100)).roundHalfUp
      if percent % 5 = 0 then some ("opacity-" ++ natText percent) else none
    else none

/-! ## Properties -/

/-- The classes of a value in small letters. -/
def Utility.classes : Utility → Text → List Text
  | keyword table, value => (Table.get? value table).toList
  | length stem signed keywords, value =>
    ((Table.get? value keywords).or (spacingClass stem signed value)).toList
  | box stem signed, value => boxClasses stem signed value
  | color stem, value => (colorClass stem value).toList
  | opacity, value => (opacityClass value).toList

/-- The ways to align along the main axis. -/
def justifyKeywords : Table Text :=
  [("flex-start", "justify-start"), ("start", "justify-start"), ("flex-end", "justify-end"),
   ("end", "justify-end"), ("center", "justify-center"), ("space-between", "justify-between"),
   ("space-around", "justify-around"), ("space-evenly", "justify-evenly")]

/-- The ways to align along the cross axis. -/
def alignKeywords : Table Text :=
  [("flex-start", "items-start"), ("start", "items-start"), ("flex-end", "items-end"),
   ("end", "items-end"), ("center", "items-center"), ("baseline", "items-baseline"),
   ("stretch", "items-stretch")]

def weightKeywords : Table Text :=
  [("100", "font-thin"), ("200", "font-extralight"), ("300", "font-light"),
   ("400", "font-normal"), ("normal", "font-normal"), ("500", "font-medium"),
   ("600", "font-semibold"), ("700", "font-bold"), ("bold", "font-bold"),
   ("800", "font-extrabold"), ("900", "font-black")]

def decorationKeywords : Table Text :=
  [("underline", "underline"), ("line-through", "line-through"), ("none", "no-underline")]

def radiusKeywords : Table Text :=
  [("0", "rounded-none"), ("0px", "rounded-none"), ("2px", "rounded-sm"), ("4px", "rounded"),
   ("6px", "rounded-md"), ("8px", "rounded-lg"), ("12px", "rounded-xl"),
   ("9999px", "rounded-full"), ("50%", "rounded-full")]

def layoutUtilities : Table Utility :=
  [("display", .keyword
      [("flex", "flex"), ("inline-flex", "inline-flex"), ("block", "block"),
       ("inline-block", "inline-block"), ("inline", "inline"), ("grid", "grid"),
       ("none", "hidden")]),
   ("flex-direction", .keyword
      [("row", "flex-row"), ("row-reverse", "flex-row-reverse"), ("column", "flex-col"),
       ("column-reverse", "flex-col-reverse")]),
   ("flex-wrap", .keyword [("wrap", "flex-wrap"), ("nowrap", "flex-nowrap")]),
   ("justify-content", .keyword justifyKeywords),
   ("align-items", .keyword alignKeywords),
   ("position", .keyword
      [("static", "static"), ("relative", "relative"), ("absolute", "absolute"),
       ("fixed", "fixed"), ("sticky", "sticky")]),
   ("overflow", .keyword
      [("hidden", "overflow-hidden"), ("auto", "overflow-auto"), ("scroll", "overflow-scroll"),
       ("visible", "overflow-visible")])]

def textUtilities : Table Utility :=
  [("text-align", .keyword
      [("left", "text-left"), ("center", "text-center"), ("right", "text-right"),
       ("justify", "text-justify")]),
   ("font-weight", .keyword weightKeywords),
   ("font-style", .keyword [("italic", "italic")]),
   ("text-decoration", .keyword decorationKeywords),
   ("text-decoration-line", .keyword decorationKeywords),
   ("text-transform", .keyword
      [("uppercase", "uppercase"), ("lowercase", "lowercase"), ("capitalize", "capitalize")]),
   ("cursor", .keyword
      [("pointer", "cursor-pointer"), ("default", "cursor-default"),
       ("not-allowed", "cursor-not-allowed"), ("move", "cursor-move"), ("wait", "cursor-wait"),
       ("text", "cursor-text")])]

/-- The properties that take lengths; margins may be negative. -/
def spacingUtilities : Table Utility :=
  [("width", .length "w" false [("100%", "w-full"), ("100vw", "w-screen")]),
   ("height", .length "h" false [("100%", "h-full"), ("100vh", "h-screen")]),
   ("gap", .length "gap" false []),
   ("margin", .box "m" true),
   ("padding", .box "p" false),
   ("margin-top", .length "mt" true []),
   ("margin-right", .length "mr" true []),
   ("margin-bottom", .length "mb" true []),
   ("margin-left", .length "ml" true []),
   ("padding-top", .length "pt" false []),
   ("padding-right", .length "pr" false []),
   ("padding-bottom", .length "pb" false []),
   ("padding-left", .length "pl" false [])]

def paintUtilities : Table Utility :=
  [("border-radius", .keyword radiusKeywords),
   ("opacity", .opacity),
   ("color", .color "text"),
   ("background-color", .color "bg"),
   ("background", .color "bg"),
   ("border-color", .color "border")]

/-- Every property that has utility classes, by its name in small letters. -/
def utilities : Table Utility :=
  layoutUtilities ++ textUtilities ++ spacingUtilities ++ paintUtilities

/-! ## Class lists -/

def priorityMarker : Text := "!important"

def dropPriority (value : Text) : Text :=
  match found : Text.dropEnding? priorityMarker value with
  | none => value
  | some rest =>
    have : rest.length < value.length :=
      Text.length_of_dropEnding?_eq_some (by decide) found
    dropPriority rest
termination_by value.length

def Declaration.classes (d : Declaration) : List Text :=
  match Table.get? (Text.lowerAscii d.property) utilities with
  | none => []
  -- The marker is dropped before the letters are made small, so it is known in small letters only.
  | some utility => utility.classes (Text.lowerAscii (Text.trim (dropPriority d.value)))

def isSeparator (c : Char) : Bool :=
  c = '\n' || c = ';' || c = '\x7b' || c = '\x7d'

/-- The classes of all declarations of a style sheet, with repetitions. -/
def allClasses (sheet : Text) : List Text :=
  ((Text.split isSeparator sheet).filterMap Declaration.parse?).flatMap Declaration.classes

def classList (sheet : Text) : List Text :=
  (allClasses sheet).eraseDups

theorem mem_classList {name sheet : Text} :
    name ∈ classList sheet ↔
      ∃ fragment ∈ Text.split isSeparator sheet, ∃ d, Declaration.parse? fragment = some d ∧
        name ∈ d.classes := by
  simp only [classList, allClasses, List.mem_eraseDups, List.mem_flatMap, List.mem_filterMap]
  constructor
  · rintro ⟨d, ⟨fragment, member, parsed⟩, listed⟩
    exact ⟨fragment, member, d, parsed, listed⟩
  · rintro ⟨fragment, member, d, parsed, listed⟩
    exact ⟨d, ⟨fragment, member, parsed⟩, listed⟩

def toUtilityClasses (sheet : Text) : Text :=
  Text.join [' '] (classList sheet)

end Snippet.Style
