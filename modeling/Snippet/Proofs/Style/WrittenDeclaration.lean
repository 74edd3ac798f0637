import Snippet.Proofs.Text.Words
import Snippet.Style.Declaration

/-!
# Declarations as they are written

A declaration is written as its property, a colon, a blank, its value and a semicolon. What is read
from a fragment of a style sheet is written so that it is read again: the property has no colon, so
the text is cut behind it whatever colons the value has; neither part has blanks at its ends that
could be lost; and the semicolon that is taken off is the one that was written, even if the value
ends with another one.
-/

namespace Snippet

namespace Text

theorem dropEnding_isPrefix (ending t : Text) : dropEnding ending t <+: t := by
  rw [dropEnding]
  cases found : dropEnding? ending t with
  | none => exact List.prefix_refl t
  | some rest =>
    rw [dropEnding?_eq_some_iff.1 found]
    exact List.prefix_append rest ending

theorem dropEnding_append (ending t : Text) : dropEnding ending (t ++ ending) = t := by
  rw [dropEnding, dropEnding?_eq_some_iff.2 rfl, Option.getD_some]

end Text

namespace Style.Declaration

def text (d : Declaration) : Text :=
  d.property ++ ": " ++ d.value ++ ";"

/-- A declaration whose parts are kept apart by a colon and do not change when blanks at their ends
are taken off. -/
structure IsWellFormed (d : Declaration) : Prop where
  property_filled : d.property ≠ []
  noColon : ':' ∉ d.property
  property_trimmed : Text.IsTrimmed d.property
  value_filled : d.value ≠ []
  value_trimmed : Text.IsTrimmed d.value

/-! ## Values -/

/-- A value starts where the trimmed text starts, and what is taken off at its end is trimmed once
more. -/
theorem isTrimmed_valueOf (t : Text) : Text.IsTrimmed (valueOf t) where
  head := by
    -- Each step leaves a beginning of the trimmed text, whose first character is visible.
    have untilEnding := Text.trimEnd_isPrefix (Text.dropEnding [';'] (Text.trim t))
    have inTrimmed := untilEnding.trans (Text.dropEnding_isPrefix [';'] (Text.trim t))
    exact Text.visible_of_mem_head?_of_isPrefix (inTrimmed.trans (Text.trimEnd_isPrefix _))
  last := Text.visible_of_mem_getLast?_trimEnd

/-- One semicolon is taken off, so a value that ends with another one keeps it. -/
theorem valueOf_written {value : Text} (isTrimmed : Text.IsTrimmed value) :
    valueOf (' ' :: (value ++ [';'])) = value := by
  have closed : Text.IsTrimmed (value ++ [';']) := isTrimmed.concat (by decide)
  rw [valueOf, Text.trim_cons (by decide), closed.trim_eq_self, Text.dropEnding_append,
    Text.trimEnd_eq_self isTrimmed.last]

/-! ## Whole declarations -/

theorem parse?_append_colon {property after : Text} (noColon : ':' ∉ property)
    (isTrimmed : Text.IsTrimmed property) (filled : property ≠ []) (valued : valueOf after ≠ []) :
    parse? (property ++ ':' :: after) = some ⟨property, valueOf after⟩ := by
  rw [parse?, Text.splitOnce_append_cons noColon]
  simp [isTrimmed.trim_eq_self, filled, valued]

theorem isWellFormed_of_parse? {fragment : Text} {d : Declaration}
    (parsed : parse? fragment = some d) : d.IsWellFormed := by
  obtain ⟨before, after, _, absent, property, value, propertyFilled, valueFilled⟩ :=
    parse?_eq_some parsed
  refine ⟨propertyFilled, ?_, ?_, valueFilled, ?_⟩
  · rw [property]
    exact fun colon => absent (Text.trimStart_subset before (Text.trimEnd_subset _ colon))
  · rw [property]
    exact Text.isTrimmed_trim before
  · rw [value]
    exact isTrimmed_valueOf after

theorem IsWellFormed.parse?_text {d : Declaration} (isWellFormed : d.IsWellFormed) :
    parse? d.text = some d := by
  have written := valueOf_written isWellFormed.value_trimmed
  -- The colon that is written is the first one, since the property has none.
  have cut : d.text = d.property ++ ':' :: ' ' :: (d.value ++ [';']) := by simp [text]
  rw [cut, parse?_append_colon isWellFormed.noColon isWellFormed.property_trimmed
    isWellFormed.property_filled (by simpa [written] using isWellFormed.value_filled), written]

/-- What is read from fragments are the declarations that have a property without colons and two parts
that are not empty and have no blanks at their ends. Every one of them is read again from its own
text. -/
theorem declaration_read_again (d : Declaration) :
    ((∃ fragment, parse? fragment = some d) ↔ d.IsWellFormed) ∧
      ∀ fragment, parse? fragment = some d → parse? d.text = some d := by
  refine ⟨⟨?_, ?_⟩, ?_⟩
  · rintro ⟨fragment, parsed⟩
    exact isWellFormed_of_parse? parsed
  · intro isWellFormed
    exact ⟨d.text, isWellFormed.parse?_text⟩
  · intro fragment parsed
    exact (isWellFormed_of_parse? parsed).parse?_text

/-- A value with a colon in it and semicolons at its end, between blanks of several kinds. -/
theorem value_keeps_semicolons :
    let fragment : Text := "\t--icon\u00A0:\u3000url(a:b) ;; ;\r"
    let d : Declaration := ⟨"--icon", "url(a:b) ;;"⟩
    parse? fragment = some d ∧ d.IsWellFormed ∧ parse? "--icon: url(a:b) ;;;" = some d := by
  intro fragment d
  have parsed : parse? fragment = some d := by decide +kernel
  obtain ⟨image, again⟩ := declaration_read_again d
  exact ⟨parsed, image.1 ⟨fragment, parsed⟩, again fragment parsed⟩

end Style.Declaration

end Snippet
