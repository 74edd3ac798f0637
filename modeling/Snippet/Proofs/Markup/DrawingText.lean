import Snippet.Proofs.Markup.DrawingEdits
import Snippet.Proofs.Text.Indentation

/-!
# Drawings read back from their components

What a component was made from can be told from its text. The markup stands between a beginning and
an end that depend on the name and the parameters only, its margin can be taken away as long as the
lines of the drawing can be seen, and the place of the added properties is that of the first opening
tag, in the component as in the drawing. So two drawings become the same component only if they are
the same once their attributes are renamed.
-/

namespace Snippet.Markup

def componentStart (name parameters : Text) : Text :=
  "import React from 'react';\n\nconst " ++ name ++ " = " ++ parameters ++ " => (\n"

def componentEnd (name : Text) : Text :=
  "\n);\n\nexport default " ++ name ++ ";"

theorem component_eq (name parameters body : Text) :
    component name parameters body =
      componentStart name parameters ++ (Text.indent "  " body ++ componentEnd name) := by
  have parts (a n b p c m d e : Text) : a ++ n ++ b ++ p ++ c ++ m ++ d ++ n ++ e =
      (a ++ n ++ b ++ p ++ c) ++ (m ++ (d ++ n ++ e)) := by
    simp only [List.append_assoc]
  exact parts ..

theorem indent_eq_of_component_eq {name parameters body body' : Text}
    (same : component name parameters body = component name parameters body') :
    Text.indent "  " body = Text.indent "  " body' := by
  rw [component_eq, component_eq] at same
  exact List.append_cancel_right (List.append_cancel_left same)

namespace Svg

open Text (HasPlainLines IsPlainLine)

/-! ## Accepted inputs -/

theorem requireDrawing_eq_ok {write : Text → Text} {input output : Text}
    (accepted : requireDrawing ((ofText? input).map write) = .ok output) :
    openingTag <:+: Text.trim input ∧ output = write (Text.trim input) := by
  rw [ofText?] at accepted
  split at accepted
  next found =>
    exact ⟨Text.contains_iff_infix.1 found, (Except.ok.inj accepted).symm⟩
  next => contradiction

theorem run_svgReact {input svg : Text} (config : Config) (drawing : ofText? input = some svg) :
    Conversion.svgReact.run config input =
      .ok (component config.componentName "(props)" (spreadProps svg)) := by
  rw [Conversion.run, toComponent?, drawing]
  rfl

theorem trim_visibleEnd {input : Text} (drawing : openingTag <:+: Text.trim input) :
    ∃ c, (Text.trim input).getLast? = some c ∧ Unicode.isBlank c = false := by
  cases ending : (Text.trim input).getLast? with
  | none =>
    rw [List.getLast?_eq_none_iff] at ending
    rw [ending, List.infix_nil] at drawing
    contradiction
  | some c => exact ⟨c, rfl, Text.visible_of_mem_getLast?_trim c ending⟩

/-! ## Edits -/

theorem spreadRewrites_stayOnLine : ∀ r ∈ spreadRewrites, r.StaysOnLine := by
  decide

theorem hasPlainLines_spreadProps {svg : Text} (plain : HasPlainLines svg) :
    HasPlainLines (spreadProps svg) :=
  HasPlainLines.foldl spreadRewrites_stayOnLine plain

theorem addAttribute_injective (added : Text) : Function.Injective (addAttribute added) := by
  intro svg svg' same
  rw [addAttribute, addAttribute, List.append_assoc] at same
  exact Text.replaceFirst_append_injective openingTag (" " ++ added) same

/-! ## Components -/

/-- Two inputs whose drawings have neither carriage returns nor lines of blanks become the same
component only if their drawings are the same with renamed attributes. -/
theorem component_shows_drawing {config : Config} {input input' output : Text}
    (accepted : Conversion.svgReact.run config input = .ok output)
    (accepted' : Conversion.svgReact.run config input' = .ok output)
    (noReturn : '\r' ∉ Text.trim input) (noReturn' : '\r' ∉ Text.trim input')
    (plain : ∀ line ∈ Text.lines (Text.trim input), IsPlainLine line)
    (plain' : ∀ line ∈ Text.lines (Text.trim input'), IsPlainLine line) :
    renameAttributes (Text.trim input) = renameAttributes (Text.trim input') := by
  obtain ⟨drawing, written⟩ := requireDrawing_eq_ok accepted
  obtain ⟨drawing', written'⟩ := requireDrawing_eq_ok accepted'
  have spread := hasPlainLines_spreadProps
    (Text.hasPlainLines_of_lines noReturn (trim_visibleEnd drawing) plain)
  have spread' := hasPlainLines_spreadProps
    (Text.hasPlainLines_of_lines noReturn' (trim_visibleEnd drawing') plain')
  have indented := indent_eq_of_component_eq (written.symm.trans written')
  have oneLine : '\n' ∉ ("  " : Text) := by decide
  -- The wrapper is gone; now the margin goes, and last the added properties.
  have markup : spreadProps (Text.trim input) = spreadProps (Text.trim input') := by
    rw [← Text.unindent_indent oneLine spread, indented, Text.unindent_indent oneLine spread']
  exact addAttribute_injective _ markup

/-- A drawing with an empty line and a margin of its own, once with blanks around it and once with
its attribute already renamed. -/
theorem renamed_drawing_shown :
    let input : Text := "\n<svg stroke-width='2'>\n\n\t<path/>\n</svg>"
    let input' : Text := "<svg strokeWidth='2'>\n\n\t<path/>\n</svg> "
    let output : Text := component "SvgComponent" "(props)"
      "<svg \x7b...props\x7d strokeWidth='2'>\n\n\t<path/>\n</svg>"
    Conversion.svgReact.run {} input = .ok output ∧
      Conversion.svgReact.run {} input' = .ok output ∧
      '\r' ∉ Text.trim input ∧ '\r' ∉ Text.trim input' ∧
      (∀ line ∈ Text.lines (Text.trim input), IsPlainLine line) ∧
      (∀ line ∈ Text.lines (Text.trim input'), IsPlainLine line) ∧
      Text.trim input ≠ Text.trim input' ∧
      renameAttributes (Text.trim input) = renameAttributes (Text.trim input') := by
  intro input input' output
  have drawing : ofText? input = some (Text.trim input) := by decide +kernel
  have drawing' : ofText? input' = some (Text.trim input') := by decide +kernel
  have spread : component "SvgComponent" "(props)" (spreadProps (Text.trim input)) = output := by
    decide +kernel
  have spread' : component "SvgComponent" "(props)" (spreadProps (Text.trim input')) = output := by
    decide +kernel
  have accepted := (run_svgReact {} drawing).trans (congrArg Except.ok spread)
  have accepted' := (run_svgReact {} drawing').trans (congrArg Except.ok spread')
  have noReturn : '\r' ∉ Text.trim input := by decide +kernel
  have noReturn' : '\r' ∉ Text.trim input' := by decide +kernel
  have plain : ∀ line ∈ Text.lines (Text.trim input), IsPlainLine line := by decide +kernel
  have plain' : ∀ line ∈ Text.lines (Text.trim input'), IsPlainLine line := by decide +kernel
  exact ⟨accepted, accepted', noReturn, noReturn', plain, plain', by decide +kernel,
    component_shows_drawing accepted accepted' noReturn noReturn' plain plain'⟩

end Svg

end Snippet.Markup
