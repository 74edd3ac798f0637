import Snippet.Conversion.Run
import Snippet.Proofs.Distinct
import Snippet.Proofs.Style.SpacingScale

/-!
# Class names

Every class of a style sheet is a word, also where a part of it is copied from the style sheet. The
classes are therefore found again in the text that lists them, each of them once.
-/

namespace Snippet.Style

open Snippet.Number
open Json (isDigit_of_mem_natText)
open Text (Unbroken IsWord)

theorem unbroken_natText (n : ℕ) : Unbroken (natText n) :=
  fun _ member => Unicode.isBlank_of_isDigit (isDigit_of_mem_natText member)

/-! ## Spacing classes -/

theorem unbroken_of_pixels? {magnitude : Text} {x : Binary64} (found : pixels? magnitude = some x) :
    Unbroken magnitude := by
  -- What can be read as a number has no blanks, and neither have the units.
  obtain ⟨rfl, _⟩ | ⟨number, rfl, parsed⟩ | ⟨number, y, rfl, parsed, _⟩ :=
    pixels?_eq_some_iff.1 found
  · decide
  · exact (unbroken_of_parse? parsed).append (by decide : Unbroken ↑"px")
  · exact (unbroken_of_parse? parsed).append (by decide : Unbroken ↑"rem")

theorem unbroken_of_step? {x : Binary64} {step : Text} (found : step? x = some step) :
    Unbroken step := by
  cases step?_cases found with
  | inl pixel => exact pixel ▸ (by decide : Unbroken ↑"px")
  | inr whole =>
    obtain ⟨k, rfl⟩ := whole
    exact unbroken_natText k

theorem isWord_magnitudeClass {stem magnitude : Text} (word : IsWord stem) (negative : Bool)
    {x : Binary64} (found : pixels? magnitude = some x) :
    IsWord (magnitudeClass stem negative magnitude x) := by
  have sign (shown : Bool) : Unbroken (minusText shown) := by
    cases shown with
    | false => nofun
    | true => decide
  have hyphen : Unbroken ↑"-" := by decide
  have step : Unbroken ((step? x).getD ("[" ++ magnitude ++ "]")) := by
    cases steps : step? x with
    | some step => exact unbroken_of_step? steps
    -- The magnitude is copied from the style sheet; it was read as a length.
    | none =>
      exact ((by decide : Unbroken ↑"[").append (unbroken_of_pixels? found)).append
        (by decide : Unbroken ↑"]")
  rw [magnitudeClass_eq]
  exact ((word.append_left (sign _)).append hyphen).append step

theorem isWord_of_spacingClass {stem value name : Text} {signed : Bool} (word : IsWord stem)
    (found : spacingClass stem signed value = some name) : IsWord name := by
  obtain ⟨_, rfl⟩ | ⟨x, pixels, _, rfl⟩ := spacingClass_eq_some_iff.1 found
  · exact word.append (by decide : Unbroken ↑"-auto")
  · exact isWord_magnitudeClass word _ pixels

/-- What the stems of sides and of pairs of sides end with. -/
def sideEndings : List Text :=
  ["", "x", "y", "t", "r", "b", "l"]

theorem boxSides_stems_subset (stem : Text) (values : List Text) :
    (boxSides stem values).map Prod.fst ⊆ sideEndings.map (stem ++ ·) := by
  match values with
  | [] => simp [boxSides]
  | [all] => simp [boxSides, sideEndings]
  | [y, x] => simp [boxSides, sideEndings]
  | [t, x, b] => simp [boxSides, sideEndings]
  | [t, r, b, l] => simp [boxSides, sideEndings]
  | _ :: _ :: _ :: _ :: _ :: _ => simp [boxSides]

theorem isWord_of_mem_boxSides {stem : Text} (word : IsWord stem) {values : List Text}
    {side : Text × Text} (listed : side ∈ boxSides stem values) : IsWord side.1 := by
  have endings : ∀ ending ∈ sideEndings, Unbroken ending := by decide
  obtain ⟨ending, isEnding, same⟩ :=
    List.mem_map.1 (boxSides_stems_subset stem values (List.mem_map_of_mem listed))
  exact same ▸ word.append (endings ending isEnding)

theorem isWord_of_mem_boxClasses {stem value name : Text} {signed : Bool} (word : IsWord stem)
    (listed : name ∈ boxClasses stem signed value) : IsWord name := by
  obtain ⟨side, isSide, found⟩ := List.mem_filterMap.1 listed
  exact isWord_of_spacingClass (isWord_of_mem_boxSides word isSide) found

/-! ## Colours and opacity -/

theorem isBlank_of_isHexDigit {c : Char} (isHex : isHexDigit c = true) :
    Unicode.isBlank c = false := by
  simp only [isHexDigit, Bool.or_eq_true, Bool.and_eq_true, decide_eq_true_eq] at isHex
  obtain (digit | ⟨above, below⟩) | ⟨above, below⟩ := isHex
  · exact Unicode.isBlank_of_isDigit digit
  · have above : 97 ≤ c.toNat := above
    have below : c.toNat ≤ 102 := below
    exact Text.isBlank_of_visible (by omega) (by omega)
  · have above : 65 ≤ c.toNat := above
    have below : c.toNat ≤ 70 := below
    exact Text.isBlank_of_visible (by omega) (by omega)

theorem unbroken_of_isHexColor {value : Text} (isHex : isHexColor value = true) :
    Unbroken value := by
  cases value with
  | nil => nofun
  | cons c digits =>
    simp only [isHexColor, Bool.and_eq_true, decide_eq_true_eq] at isHex
    obtain ⟨⟨rfl, _⟩, areHex⟩ := isHex
    intro d member
    cases List.mem_cons.1 member with
    | inl hash => exact hash ▸ (by decide)
    | inr inDigits => exact isBlank_of_isHexDigit (List.all_eq_true.1 areHex d inDigits)

theorem isWord_of_colorClass {stem value name : Text} (word : IsWord stem)
    (found : colorClass stem value = some name) : IsWord name := by
  have names : ∀ entry ∈ colorNames, Unbroken entry.2 := by decide
  rw [colorClass] at found
  split at found
  next color listed =>
    obtain rfl := Option.some.inj found
    exact (word.append (by decide : Unbroken ↑"-")).append
      (names _ (Table.mem_of_get?_eq_some listed))
  next =>
    -- A value that is copied into the class is a hexadecimal colour.
    obtain ⟨isHex, same⟩ := Option.ite_none_right_eq_some.1 found
    obtain rfl := Option.some.inj same
    exact ((word.append (by decide : Unbroken ↑"-[")).append (unbroken_of_isHexColor isHex)).append
      (by decide : Unbroken ↑"]")

theorem isWord_of_opacityClass {value name : Text} (found : opacityClass value = some name) :
    IsWord name := by
  have stem : IsWord ↑"opacity-" := by decide
  rw [opacityClass] at found
  split at found
  next => contradiction
  next number _ =>
    obtain ⟨_, found⟩ := Option.ite_none_right_eq_some.1 found
    obtain ⟨_, same⟩ := Option.ite_none_right_eq_some.1 found
    obtain rfl := Option.some.inj same
    exact stem.append (unbroken_natText _)

/-! ## Utilities -/

/-- The classes and stems of classes that a utility has of its own. -/
def Utility.names : Utility → List Text
  | keyword table => table.map Prod.snd
  | length stem _ keywords => stem :: keywords.map Prod.snd
  | box stem _ => [stem]
  | color stem => [stem]
  | opacity => []

theorem utilities_names_are_words :
    ∀ entry ∈ utilities, ∀ name ∈ entry.2.names, IsWord name := by
  decide +kernel

theorem isWord_of_mem_classes {utility : Utility} (names : ∀ name ∈ utility.names, IsWord name)
    {value name : Text} (listed : name ∈ utility.classes value) : IsWord name := by
  cases utility with
  | keyword table =>
    have entry := Table.mem_of_get?_eq_some (Option.mem_toList.1 listed)
    exact names name (List.mem_map.2 ⟨_, entry, rfl⟩)
  | length stem signed keywords =>
    cases Option.or_eq_some_iff.1 (Option.mem_toList.1 listed) with
    | inl keyword =>
      have entry := Table.mem_of_get?_eq_some keyword
      exact names name (List.mem_cons_of_mem stem (List.mem_map.2 ⟨_, entry, rfl⟩))
    | inr length => exact isWord_of_spacingClass (names stem List.mem_cons_self) length.2
  | box stem signed => exact isWord_of_mem_boxClasses (names stem List.mem_cons_self) listed
  | color stem =>
    exact isWord_of_colorClass (names stem List.mem_cons_self) (Option.mem_toList.1 listed)
  | opacity => exact isWord_of_opacityClass (Option.mem_toList.1 listed)

theorem isWord_of_mem_classList {sheet name : Text} (listed : name ∈ classList sheet) :
    IsWord name := by
  obtain ⟨fragment, _, d, _, fromValue⟩ := mem_classList.1 listed
  rw [Declaration.classes] at fromValue
  split at fromValue
  next => contradiction
  next utility found =>
    have entry := Table.mem_of_get?_eq_some found
    exact isWord_of_mem_classes (utilities_names_are_words _ entry) fromValue

/-! ## Class lists -/

def listedClasses (output : Text) : List Text :=
  if output = [] then [] else Text.split (· == ' ') output

theorem listedClasses_join {names : List Text} (areWords : ∀ name ∈ names, IsWord name) :
    listedClasses (Text.join [' '] names) = names := by
  cases names with
  | nil => rfl
  | cons name others =>
    have filled := (areWords name List.mem_cons_self).filled
    have written : Text.join [' '] (name :: others) ≠ [] := by
      rw [Text.join_cons]
      simp [filled]
    rw [listedClasses, if_neg written]
    apply Text.split_join (by simp)
    intro part listed
    exact (areWords part listed).blank_notMem (by decide)

/-- The classes of a style sheet are words without repetitions, and they are the ones that its
output lists. -/
theorem output_lists_classes (config : Config) (sheet : Text) :
    (∀ name ∈ classList sheet, IsWord name) ∧ (classList sheet).Nodup ∧
      ∃ output, Conversion.cssTailwind.run config sheet = .ok output ∧
        listedClasses output = classList sheet := by
  have areWords : ∀ name ∈ classList sheet, IsWord name := fun _ => isWord_of_mem_classList
  exact ⟨areWords, nodup_eraseDups _, _, rfl, listedClasses_join areWords⟩

end Snippet.Style
