import Mathlib.Data.List.Forall2
import Snippet.Proofs.Style.BoxSides

/-!
# Capitals in style sheets

Properties and values are compared in small letters, so a style sheet keeps its classes when ASCII
capitals in it are made small. The priority marker is taken off before that and is only known in
small letters: a marker with a capital stays at the end of its value. A style sheet in which no
marker stays has the classes of every other spelling of it.
-/

namespace Snippet

/-! ## Texts in small letters -/

namespace Text

theorem splitOnce_lowerAscii {separator : Char}
    (ignoresCase : ∀ c : Char, c.toLower = separator ↔ c = separator) (t : Text) :
    splitOnce separator (lowerAscii t) =
      (splitOnce separator t).map fun parts => (lowerAscii parts.1, lowerAscii parts.2) := by
  induction t with
  | nil => rfl
  | cons c rest ih =>
    simp only [lowerAscii, List.map_cons, splitOnce, ignoresCase] at ih ⊢
    split
    · rfl
    · rw [ih, Option.map_map, Option.map_map]
      rfl

theorem split_lowerAscii {isSeparator : Char → Bool}
    (ignoresCase : ∀ c : Char, isSeparator c.toLower = isSeparator c) (t : Text) :
    split isSeparator (lowerAscii t) = (split isSeparator t).map lowerAscii := by
  induction t with
  | nil => rfl
  | cons c rest ih =>
    simp only [lowerAscii, List.map_cons, split, ignoresCase] at ih ⊢
    rw [ih]
    split
    · rfl
    · cases split isSeparator rest with
      | nil => rfl
      | cons piece others => rfl

theorem trimStart_lowerAscii (t : Text) : trimStart (lowerAscii t) = lowerAscii (trimStart t) := by
  have ignoresCase : Unicode.isBlank ∘ Char.toLower = Unicode.isBlank := funext isBlank_toLower
  rw [trimStart, lowerAscii, List.dropWhile_map, ignoresCase]
  rfl

theorem trimEnd_lowerAscii (t : Text) : trimEnd (lowerAscii t) = lowerAscii (trimEnd t) := by
  have turned (s : Text) : (lowerAscii s).reverse = lowerAscii s.reverse := List.map_reverse.symm
  rw [trimEnd, turned, trimStart_lowerAscii, turned, trimEnd]

theorem trim_lowerAscii (t : Text) : trim (lowerAscii t) = lowerAscii (trim t) := by
  rw [trim, trimStart_lowerAscii, trimEnd_lowerAscii, trim]

theorem lowerAscii_lowerAscii (t : Text) : lowerAscii (lowerAscii t) = lowerAscii t := by
  rw [lowerAscii, lowerAscii, List.map_map]
  exact List.map_congr_left fun c _ => apply_toLower (f := Char.toLower) (by decide) c

theorem dropEnding?_lowerAscii {ending : Text} (small : lowerAscii ending = ending)
    (ignoresCase : ∀ s, lowerAscii s = ending → s = ending) (t : Text) :
    dropEnding? ending (lowerAscii t) = (dropEnding? ending t).map lowerAscii := by
  cases found : dropEnding? ending t with
  | some rest =>
    rw [dropEnding?_eq_some_iff.1 found, Option.map_some, dropEnding?_eq_some_iff, lowerAscii,
      List.map_append, ← lowerAscii, ← lowerAscii, small]
  | none =>
    rw [Option.map_none, Option.eq_none_iff_forall_ne_some]
    intro rest foundSmall
    -- What becomes the ending in small letters is the ending already, so it would have been found.
    obtain ⟨before, marked, rfl, _, same⟩ :=
      List.map_eq_append_iff.1 (dropEnding?_eq_some_iff.1 foundSmall)
    rw [dropEnding?_eq_some_iff.2 (congrArg (before ++ ·) (ignoresCase marked same))] at found
    contradiction

end Text

/-! ## Declarations in small letters -/

namespace Style

theorem colon_ignoresCase (c : Char) : c.toLower = ':' ↔ c = ':' := by
  have alike : decide (c.toLower = ':') = decide (c = ':') :=
    Text.apply_toLower (f := fun c => decide (c = ':')) (by decide) c
  simpa using alike

theorem isSeparator_ignoresCase : ∀ c : Char, isSeparator c.toLower = isSeparator c :=
  Text.apply_toLower (by decide)

theorem semicolon_ignoresCase {s : Text} (same : Text.lowerAscii s = [';']) : s = [';'] := by
  obtain ⟨c, rfl, semicolon⟩ := List.map_eq_singleton_iff.1 same
  have alike : decide (c.toLower = ';') = decide (c = ';') :=
    Text.apply_toLower (f := fun c => decide (c = ';')) (by decide) c
  simpa [semicolon] using alike

namespace Declaration

def lower (d : Declaration) : Declaration :=
  ⟨Text.lowerAscii d.property, Text.lowerAscii d.value⟩

theorem valueOf_lowerAscii (t : Text) : valueOf (Text.lowerAscii t) = Text.lowerAscii (valueOf t) := by
  have dropped (s : Text) : Text.dropEnding [';'] (Text.lowerAscii s) =
      Text.lowerAscii (Text.dropEnding [';'] s) := by
    rw [Text.dropEnding, Text.dropEnding,
      Text.dropEnding?_lowerAscii rfl fun _ => semicolon_ignoresCase]
    cases Text.dropEnding? [';'] s with
    | none => rfl
    | some rest => rfl
  rw [valueOf, Text.trim_lowerAscii, dropped, Text.trimEnd_lowerAscii, valueOf]

theorem parse?_lowerAscii (fragment : Text) :
    parse? (Text.lowerAscii fragment) = (parse? fragment).map lower := by
  have empty (t : Text) : (Text.lowerAscii t).isEmpty = t.isEmpty := List.isEmpty_map
  simp only [parse?, Text.splitOnce_lowerAscii colon_ignoresCase]
  cases Text.splitOnce ':' fragment with
  | none => rfl
  | some parts =>
    simp only [Option.map_some, Text.trim_lowerAscii, valueOf_lowerAscii, empty]
    split
    · rfl
    · rfl

end Declaration

/-! ## Priority markers -/

theorem dropPriority_append (value : Text) :
    dropPriority (value ++ priorityMarker) = dropPriority value := by
  rw [dropPriority]
  split
  next missing => rw [Text.dropEnding?_eq_some_iff.2 rfl] at missing; contradiction
  next rest found =>
    exact congrArg dropPriority (List.append_cancel_right (Text.dropEnding?_eq_some_iff.1 found)).symm

/-- Whether a priority marker that is not in small letters stays at the end of a value. -/
def Declaration.keepsMarker (d : Declaration) : Bool :=
  Text.hasEnding priorityMarker (Text.lowerAscii (dropPriority d.value))

theorem dropPriority_lowerAscii {value : Text}
    (unmarked : Text.hasEnding priorityMarker (Text.lowerAscii (dropPriority value)) = false) :
    dropPriority (Text.lowerAscii value) = Text.lowerAscii (dropPriority value) := by
  fun_induction dropPriority value with
  -- No marker was found, and small letters make none where none stays.
  | case1 value missing => exact dropPriority_eq_self unmarked
  | case2 value rest found shorter ih =>
    have small : Text.lowerAscii priorityMarker = priorityMarker := by decide
    rw [Text.dropEnding?_eq_some_iff.1 found, Text.lowerAscii, List.map_append, ← Text.lowerAscii,
      ← Text.lowerAscii, small, dropPriority_append, ih unmarked]

namespace Declaration

theorem classes_lower {d : Declaration} (unmarked : d.keepsMarker = false) :
    d.lower.classes = d.classes := by
  rw [classes, classes, lower, Text.lowerAscii_lowerAscii, dropPriority_lowerAscii unmarked,
    Text.trim_lowerAscii, Text.lowerAscii_lowerAscii]

end Declaration

/-! ## Style sheets -/

def declarations (sheet : Text) : List Declaration :=
  (Text.split isSeparator sheet).filterMap Declaration.parse?

theorem declarations_lowerAscii (sheet : Text) :
    declarations (Text.lowerAscii sheet) = (declarations sheet).map Declaration.lower := by
  rw [declarations, Text.split_lowerAscii isSeparator_ignoresCase, List.filterMap_map, declarations,
    List.map_filterMap]
  exact List.filterMap_congr fun fragment _ => Declaration.parse?_lowerAscii fragment

theorem allClasses_lowerAscii {sheet : Text}
    (unmarked : ∀ d ∈ declarations sheet, d.keepsMarker = false) :
    allClasses (Text.lowerAscii sheet) = allClasses sheet := by
  show (declarations (Text.lowerAscii sheet)).flatMap Declaration.classes =
    (declarations sheet).flatMap Declaration.classes
  rw [declarations_lowerAscii, List.flatMap_map]
  exact List.flatMap_congr fun d listed => Declaration.classes_lower (unmarked d listed)

/-- The declarations of style sheets that differ in ASCII capitals alone correspond to each other. Two of
them have the same classes if no marker stays in them, and so do the style sheets if no marker stays in
any of them. -/
theorem letter_case_ignored (config : Config) {sheet other : Text}
    (same : Text.lowerAscii sheet = Text.lowerAscii other) :
    List.Forall₂ (fun d d' => d.keepsMarker = false → d'.keepsMarker = false →
        d.classes = d'.classes) (declarations sheet) (declarations other) ∧
      ((∀ d ∈ declarations sheet ++ declarations other, d.keepsMarker = false) →
        Conversion.cssTailwind.run config sheet = Conversion.cssTailwind.run config other) := by
  constructor
  -- Both style sheets have one spelling in small letters, so their declarations do as well.
  · have lowered : List.Forall₂ Eq ((declarations sheet).map Declaration.lower)
        ((declarations other).map Declaration.lower) := by
      rw [List.forall₂_eq_eq_eq, ← declarations_lowerAscii, same, declarations_lowerAscii]
    rw [List.forall₂_map_left_iff, List.forall₂_map_right_iff] at lowered
    refine lowered.imp fun d d' alike unmarked unmarked' => ?_
    rw [← Declaration.classes_lower unmarked, alike, Declaration.classes_lower unmarked']
  · intro unmarked
    obtain ⟨first, second⟩ := List.forall_mem_append.1 unmarked
    have agree : allClasses sheet = allClasses other := by
      rw [← allClasses_lowerAscii first, same, allClasses_lowerAscii second]
    show Except.ok (Text.join [' '] (allClasses sheet).eraseDups) =
      Except.ok (Text.join [' '] (allClasses other).eraseDups)
    rw [agree]

/-- Capitals in a property, in values, in a unit and in a colour, with markers in small letters. -/
theorem spellings_agree :
    let sheet : Text := "DISPLAY: FLEX !important; Color: #ABC!important!important\n\tmargin: 1REM Auto"
    let other : Text := "display: flex !important; color: #abc!important!important\n\tMARGIN: 1rem AUTO"
    Text.lowerAscii sheet = Text.lowerAscii other ∧
      (∀ d ∈ declarations sheet ++ declarations other, d.keepsMarker = false) ∧
      Conversion.cssTailwind.run {} sheet = Conversion.cssTailwind.run {} other ∧
      toUtilityClasses other = "flex text-[#abc] my-4 mx-auto" := by
  intro sheet other
  have same : Text.lowerAscii sheet = Text.lowerAscii other := by decide +kernel
  have unmarked : ∀ d ∈ declarations sheet ++ declarations other, d.keepsMarker = false := by
    decide +kernel
  exact ⟨same, unmarked, (letter_case_ignored {} same).2 unmarked, by decide +kernel⟩

/-- A marker in capitals stays at the end of the value, which is then no keyword any more. -/
theorem capital_marker_hides_keyword :
    let sheet : Text := "display: flex !IMPORTANT"
    let other : Text := "display: flex !important"
    Text.lowerAscii sheet = Text.lowerAscii other ∧
      Conversion.cssTailwind.run {} sheet = .ok [] ∧
      Conversion.cssTailwind.run {} other = .ok "flex" ∧
      Conversion.cssTailwind.run {} sheet ≠ Conversion.cssTailwind.run {} other := by
  intro sheet other
  have hidden : toUtilityClasses sheet = [] := by decide +kernel
  have shown : toUtilityClasses other = "flex" := by decide +kernel
  have first : Conversion.cssTailwind.run {} sheet = .ok [] := congrArg Except.ok hidden
  have second : Conversion.cssTailwind.run {} other = .ok "flex" := congrArg Except.ok shown
  refine ⟨by decide +kernel, first, second, ?_⟩
  rw [first, second, ne_eq, Except.ok.injEq]
  decide

end Style

end Snippet
