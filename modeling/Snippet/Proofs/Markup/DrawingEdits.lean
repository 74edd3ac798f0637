import Snippet.Conversion.Run
import Snippet.Proofs.Text.FirstMatch

/-!
# Edits of drawings

The edits that make a drawing a component with properties can be made in any order: the names of the
hyphenated attributes and the opening tag never overlap, neither each other nor what is written in
their places.
-/

namespace Snippet.Markup.Svg

open Text (Rewrite)

/-- The attribute that passes all properties of a component on. -/
def propsAttribute : Text := "\x7b...props\x7d"

/-- The edits that make a drawing a component with properties, in the order in which they are
made. -/
def spreadEdits : List (Text → Text) :=
  attributeNames.map (fun names => Text.replaceFirst names.1 names.2) ++
    [addAttribute propsAttribute]

/-- The texts that these edits replace, with what is written in their places. -/
def spreadRewrites : List Rewrite :=
  attributeNames.map (fun names => ⟨names.1, names.2⟩) ++
    [⟨openingTag, openingTag ++ " " ++ propsAttribute⟩]

theorem map_apply_spreadRewrites : spreadRewrites.map Rewrite.apply = spreadEdits :=
  rfl

theorem spreadRewrites_independent : spreadRewrites.Pairwise Rewrite.Independent := by
  decide +kernel

/-- The names of attributes and the properties can be edited in any order: the drawing becomes the
same markup, and the same component. -/
theorem drawing_edits_commute {edits : List (Text → Text)} (reordered : edits.Perm spreadEdits) :
    (∀ svg, edits.foldl (fun t edit => edit t) svg = spreadProps svg) ∧
      ∀ (config : Config) (input svg : Text), ofText? input = some svg →
        Conversion.svgReact.run config input =
          .ok (component config.componentName "(props)"
            (edits.foldl (fun t edit => edit t) svg)) := by
  have same (svg : Text) : edits.foldl (fun t edit => edit t) svg = spreadProps svg := by
    rw [← map_apply_spreadRewrites] at reordered
    exact Rewrite.foldl_eq_of_perm spreadRewrites_independent reordered svg
  refine ⟨same, fun config input svg drawing => ?_⟩
  rw [same, Conversion.run, toComponent?, drawing]
  rfl

/-- A drawing whose attributes come in another order than the edits, edited from the last one to the
first. -/
theorem icon_edited_backwards :
    let icon : Text := "<svg stroke-linejoin='round' stroke-width='2'><path stroke-width='1'/></svg>"
    let edited : Text :=
      "<svg \x7b...props\x7d strokeLinejoin='round' strokeWidth='2'><path stroke-width='1'/></svg>"
    spreadEdits.reverse.Perm spreadEdits ∧ ofText? icon = some icon ∧
      spreadEdits.reverse.foldl (fun t edit => edit t) icon = edited ∧
      Conversion.svgReact.run {} icon = .ok (component "SvgComponent" "(props)" edited) := by
  intro icon edited
  have reordered : spreadEdits.reverse.Perm spreadEdits := List.reverse_perm spreadEdits
  have drawing : ofText? icon = some icon := by decide +kernel
  have written : spreadProps icon = edited := by decide +kernel
  obtain ⟨same, run⟩ := drawing_edits_commute reordered
  have backwards := (same icon).trans written
  exact ⟨reordered, drawing, backwards, backwards ▸ run {} icon icon drawing⟩

end Snippet.Markup.Svg
