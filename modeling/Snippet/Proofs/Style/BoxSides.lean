import Mathlib.Data.List.Basic
import Snippet.Conversion.Run
import Snippet.Proofs.Style.Composition
import Snippet.Proofs.Style.WrittenDeclaration

/-!
# Shorthands of box spacings

A margin or padding can be given for all sides of a box in one declaration, or in one declaration
for every side. With four values the classes are the same: those of the four sides on the spacing
scale, from the top around the box.
-/

namespace Snippet.Style

open Text (IsWord)

/-! ## Declarations as they are written -/

theorem dropPriority_eq_self {value : Text} (unmarked : Text.hasEnding priorityMarker value = false) :
    dropPriority value = value := by
  rw [dropPriority]
  split
  next => rfl
  next rest found => simp [Text.dropEnding?, unmarked] at found

structure IsPropertyName (name : Text) : Prop where
  word : IsWord name
  noColon : ':' ∉ name
  plain : name.all (fun c => !isSeparator c) = true

/-- A value that can be written behind a colon and is not changed by being read: nothing at its ends
is taken off. -/
structure IsPlainValue (value : Text) : Prop where
  filled : value ≠ []
  head : ∀ c ∈ value.head?, Unicode.isBlank c = false
  last : ∀ c ∈ value.getLast?, Unicode.isBlank c = false
  plain : ∀ c ∈ value, isSeparator c = false
  unmarked : Text.hasEnding priorityMarker value = false

namespace IsPlainValue

variable {value : Text}

theorem isTrimmed (isPlain : IsPlainValue value) : Text.IsTrimmed value :=
  ⟨isPlain.head, isPlain.last⟩

theorem valueOf_cons_blank (isPlain : IsPlainValue value) :
    Declaration.valueOf (' ' :: value) = value := by
  have kept : Text.dropEnding [';'] value = value := by
    rw [Text.dropEnding]
    cases found : Text.dropEnding? [';'] value with
    | none => rfl
    -- A semicolon at the end would be a separator in the value.
    | some rest =>
      have closed := Text.dropEnding?_eq_some_iff.1 found
      exact absurd (isPlain.plain ';' (by simp [closed])) (by decide)
  rw [Declaration.valueOf, Text.trim_cons (by decide), isPlain.isTrimmed.trim_eq_self, kept,
    Text.trimEnd_eq_self isPlain.last]

end IsPlainValue

namespace Declaration

theorem parse?_cons_blank (fragment : Text) : parse? (' ' :: fragment) = parse? fragment := by
  have blank : Unicode.isBlank ' ' = true := by decide
  have noColon : ' ' ≠ ':' := by decide
  simp only [parse?, Text.splitOnce, noColon, if_false]
  cases Text.splitOnce ':' fragment with
  | none => rfl
  | some parts => simp only [Option.map_some, Text.trim_cons blank]

theorem parse?_colon {property value : Text} (name : IsPropertyName property)
    (isPlain : IsPlainValue value) :
    parse? (property ++ ": " ++ value) = some ⟨property, value⟩ := by
  have kept := isPlain.valueOf_cons_blank
  have cut : property ++ ": " ++ value = property ++ ':' :: ' ' :: value := by simp
  rw [cut, parse?_append_colon name.noColon name.word.isTrimmed name.word.filled
    (by simpa [kept] using isPlain.filled), kept]

end Declaration

theorem allClasses_colon {property value : Text} (name : IsPropertyName property)
    (isPlain : IsPlainValue value) {utility : Utility}
    (listed : Table.get? (Text.lowerAscii property) utilities = some utility) :
    allClasses (property ++ ": " ++ value) = utility.classes (Text.lowerAscii value) := by
  have plain : ∀ c ∈ property ++ ": " ++ value, isSeparator c = false := by
    intro c member
    rw [List.mem_append, List.mem_append] at member
    obtain (inName | inColon) | inValue := member
    · simpa using List.all_eq_true.1 name.plain c inName
    · have colon : (": " : Text).all (fun c => !isSeparator c) = true := by decide
      simpa using List.all_eq_true.1 colon c inColon
    · exact isPlain.plain c inValue
  have parsed := Declaration.parse?_colon name isPlain
  rw [allClasses, Text.split_eq_singleton plain, List.filterMap_cons, parsed]
  simp [Declaration.classes, listed, dropPriority_eq_self isPlain.unmarked, isPlain.isTrimmed.trim_eq_self]

theorem allClasses_cons_blank (sheet : Text) : allClasses (' ' :: sheet) = allClasses sheet := by
  -- The blank stays at the front of the first fragment, where it is trimmed off.
  have noSeparator : isSeparator ' ' = false := by decide
  simp only [allClasses, Text.split, noSeparator]
  cases pieces : Text.split isSeparator sheet with
  | nil => exact absurd pieces (Text.split_ne_nil isSeparator sheet)
  | cons piece others =>
    have same := Declaration.parse?_cons_blank piece
    simp [List.filterMap_cons, same]

theorem allClasses_join (sheets : List Text) :
    allClasses (Text.join "; " sheets) = sheets.flatMap allClasses := by
  induction sheets with
  | nil => rfl
  | cons sheet rest ih =>
    cases rest with
    | nil => simp [Text.join]
    | cons next others =>
      have cut : Text.join "; " (sheet :: next :: others) =
          sheet ++ ';' :: ' ' :: Text.join "; " (next :: others) := by
        simp [Text.join, List.intercalate_cons_cons]
      rw [cut, allClasses_append (by decide), allClasses_cons_blank, ih]
      simp only [List.flatMap_cons]

/-! ## Values of sides -/

/-- A value of one side: a word without separators at whose end no priority marker stands. -/
structure IsSideValue (value : Text) : Prop where
  word : IsWord value
  plain : ∀ c ∈ value, isSeparator c = false
  unmarked : Text.hasEnding priorityMarker value = false

instance (value : Text) : Decidable (IsSideValue value) :=
  decidable_of_iff (IsWord value ∧ value.all (fun c => !isSeparator c) = true ∧
      Text.hasEnding priorityMarker value = false)
    ⟨fun ⟨word, plain, unmarked⟩ => ⟨word, by simpa using plain, unmarked⟩,
      fun ⟨word, plain, unmarked⟩ => ⟨word, by simpa using plain, unmarked⟩⟩

theorem hasEnding_append_cons {c : Char} {ending : Text} (absent : c ∉ ending) (s t : Text) :
    Text.hasEnding ending (s ++ c :: t) = Text.hasEnding ending t := by
  rw [Bool.eq_iff_iff, Text.hasEnding, Text.hasEnding, List.isSuffixOf_iff_suffix,
    List.isSuffixOf_iff_suffix]
  constructor
  · intro suffix
    -- An ending that reached over the character in front of `t` would have it inside.
    cases List.suffix_or_suffix_of_suffix suffix (List.suffix_append s (c :: t)) with
    | inl inside =>
      cases List.suffix_cons_iff.1 inside with
      | inl same => exact absurd (same ▸ List.mem_cons_self) absent
      | inr suffix => exact suffix
    | inr around => exact absurd (around.subset List.mem_cons_self) absent
  · intro suffix
    exact suffix.trans ((List.suffix_cons c t).trans (List.suffix_append s (c :: t)))

namespace IsSideValue

variable {value others : Text}

theorem isPlainValue (isValue : IsSideValue value) : IsPlainValue value where
  filled := isValue.word.filled
  head c found := isValue.word.unbroken c (List.mem_of_head? found)
  last c found := isValue.word.unbroken c (List.mem_of_getLast? found)
  plain := isValue.plain
  unmarked := isValue.unmarked

theorem append_blank (isValue : IsSideValue value) (isPlain : IsPlainValue others) :
    IsPlainValue (value ++ ' ' :: others) where
  filled := by simp
  head c found := by
    have filled := isValue.word.filled
    apply isValue.isPlainValue.head c
    cases value with
    | nil => exact absurd rfl filled
    | cons d rest => simpa using found
  last c found := by
    rw [List.getLast?_append, List.getLast?_cons] at found
    have filled := isPlain.filled
    apply isPlain.last c
    cases others with
    | nil => exact absurd rfl filled
    | cons d rest => simpa [List.getLast?_cons] using found
  plain c member := by
    rw [List.mem_append, List.mem_cons] at member
    obtain inFirst | rfl | inOthers := member
    · exact isValue.plain c inFirst
    · decide
    · exact isPlain.plain c inOthers
  unmarked := by rw [hasEnding_append_cons (by decide), isPlain.unmarked]

end IsSideValue

theorem isPlainValue_join {values : List Text} (filled : values ≠ [])
    (areValues : ∀ value ∈ values, IsSideValue value) : IsPlainValue (Text.join " " values) := by
  induction values with
  | nil => exact absurd rfl filled
  | cons value rest ih =>
    have first := areValues value List.mem_cons_self
    cases rest with
    | nil => simpa [Text.join] using first.isPlainValue
    | cons next others =>
      have tail := ih (by simp) fun other listed => areValues other (List.mem_cons_of_mem value listed)
      simpa [Text.join, List.intercalate_cons_cons] using first.append_blank tail

/-! ## Margin and padding -/

/-- A spacing of a box that has a property for all sides and one for every side. -/
inductive BoxSpacing where
  | margin
  | padding
  deriving DecidableEq, Repr

namespace BoxSpacing

def property : BoxSpacing → Text
  | margin => "margin"
  | padding => "padding"

def stem : BoxSpacing → Text
  | margin => "m"
  | padding => "p"

def signed : BoxSpacing → Bool
  | margin => true
  | padding => false

/-- The four sides from the top around the box: their names and what the stem of a side ends with. -/
def sides : List (Text × Text) :=
  [("top", "t"), ("right", "r"), ("bottom", "b"), ("left", "l")]

variable (box : BoxSpacing)

def sideProperty (side : Text × Text) : Text :=
  box.property ++ "-" ++ side.1

def shorthand (top right bottom left : Text) : Text :=
  box.property ++ ": " ++ Text.join " " [top, right, bottom, left]

def longhand (top right bottom left : Text) : Text :=
  Text.join "; " ((sides.zip [top, right, bottom, left]).map fun (side, value) =>
    box.sideProperty side ++ ": " ++ value)

def sideClasses (top right bottom left : Text) : List Text :=
  (sides.zip [top, right, bottom, left]).filterMap fun (side, value) =>
    spacingClass (box.stem ++ side.2) box.signed (Text.lowerAscii value)

theorem get?_property :
    Table.get? (Text.lowerAscii box.property) utilities = some (.box box.stem box.signed) := by
  cases box with
  | margin => rfl
  | padding => rfl

theorem isPropertyName_property : IsPropertyName box.property := by
  cases box with
  | margin => exact ⟨by decide, by decide, by decide⟩
  | padding => exact ⟨by decide, by decide, by decide⟩

section Sides

variable {side : Text × Text}

theorem get?_sideProperty (listed : side ∈ sides) :
    Table.get? (Text.lowerAscii (box.sideProperty side)) utilities =
      some (.length (box.stem ++ side.2) box.signed []) := by
  simp only [sides, List.mem_cons, List.not_mem_nil, or_false] at listed
  -- The table is looked into for each side of each spacing.
  obtain rfl | rfl | rfl | rfl := listed <;> cases box <;> rfl

theorem isPropertyName_sideProperty (listed : side ∈ sides) :
    IsPropertyName (box.sideProperty side) := by
  simp only [sides, List.mem_cons, List.not_mem_nil, or_false] at listed
  obtain rfl | rfl | rfl | rfl := listed <;> cases box <;>
    exact ⟨by decide, by decide, by decide⟩

end Sides

variable {top right bottom left : Text}

theorem allClasses_shorthand
    (areValues : ∀ value ∈ [top, right, bottom, left], IsSideValue value) :
    allClasses (box.shorthand top right bottom left) = box.sideClasses top right bottom left := by
  have areWords : ∀ word ∈ [top, right, bottom, left].map Text.lowerAscii, IsWord word := by
    intro word listed
    obtain ⟨value, isValue, rfl⟩ := List.mem_map.1 listed
    exact (areValues value isValue).word.lowerAscii
  have words : Text.words (Text.lowerAscii (Text.join " " [top, right, bottom, left])) =
      [top, right, bottom, left].map Text.lowerAscii := by
    rw [Text.lowerAscii_join]
    exact Text.words_join (by decide) areWords
  rw [shorthand, allClasses_colon box.isPropertyName_property
    (isPlainValue_join (by simp) areValues) box.get?_property]
  show boxClasses box.stem box.signed _ = _
  rw [boxClasses, words]
  rfl

theorem allClasses_longhand
    (areValues : ∀ value ∈ [top, right, bottom, left], IsSideValue value) :
    allClasses (box.longhand top right bottom left) = box.sideClasses top right bottom left := by
  rw [longhand, allClasses_join, List.flatMap_map, sideClasses, List.filterMap_eq_flatMap_toList]
  apply List.flatMap_congr
  rintro ⟨side, value⟩ listed
  obtain ⟨isSide, isValue⟩ := List.of_mem_zip listed
  exact allClasses_colon (box.isPropertyName_sideProperty isSide)
    (areValues value isValue).isPlainValue (box.get?_sideProperty isSide)

end BoxSpacing

/-- A declaration with the values of all four sides becomes what the four declarations of the sides
become: the classes of the values, each once. -/
theorem shorthand_agrees_with_sides (box : BoxSpacing) (config : Config)
    {top right bottom left : Text}
    (areValues : ∀ value ∈ [top, right, bottom, left], IsSideValue value) :
    Conversion.cssTailwind.run config (box.shorthand top right bottom left) =
        Conversion.cssTailwind.run config (box.longhand top right bottom left) ∧
      Conversion.cssTailwind.run config (box.longhand top right bottom left) =
        .ok (Text.join " " (box.sideClasses top right bottom left).eraseDups) := by
  have short := box.allClasses_shorthand areValues
  have long := box.allClasses_longhand areValues
  constructor
  · show Except.ok (Text.join [' '] (allClasses _).eraseDups) =
      Except.ok (Text.join [' '] (allClasses _).eraseDups)
    rw [short, long]
  · show Except.ok (Text.join [' '] (allClasses _).eraseDups) = _
    rw [long]
    rfl

/-- A margin with a negative value, a keyword, a value off the scale and a unit in capitals. -/
theorem mixed_margin_agrees :
    (∀ value ∈ [↑"-4px", ↑"auto", ↑"1em", ↑"1.5REM"], IsSideValue value) ∧
      Conversion.cssTailwind.run {} "margin: -4px auto 1em 1.5REM" =
        Conversion.cssTailwind.run {}
          "margin-top: -4px; margin-right: auto; margin-bottom: 1em; margin-left: 1.5REM" ∧
      Conversion.cssTailwind.run {} "margin: -4px auto 1em 1.5REM" =
        .ok "-mt-1 mr-auto ml-6" := by
  have areValues : ∀ value ∈ [↑"-4px", ↑"auto", ↑"1em", ↑"1.5REM"], IsSideValue value := by
    decide
  have short : BoxSpacing.margin.shorthand "-4px" "auto" "1em" "1.5REM" =
      "margin: -4px auto 1em 1.5REM" := by decide +kernel
  have long : BoxSpacing.margin.longhand "-4px" "auto" "1em" "1.5REM" =
      "margin-top: -4px; margin-right: auto; margin-bottom: 1em; margin-left: 1.5REM" := by
    decide +kernel
  have written : Text.join " " (BoxSpacing.sideClasses .margin "-4px" "auto" "1em" "1.5REM").eraseDups =
      "-mt-1 mr-auto ml-6" := by decide +kernel
  obtain ⟨agree, classes⟩ := shorthand_agrees_with_sides .margin {} areValues
  rw [short, long] at agree
  rw [long, written] at classes
  exact ⟨areValues, agree, agree.trans classes⟩

end Snippet.Style
