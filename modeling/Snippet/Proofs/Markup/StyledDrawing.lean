import Snippet.Proofs.Markup.DrawingText

/-!
# Attributes of styled drawings

A drawing that takes its size and colour from classes is edited by patterns, one pass after another:
sizes are taken away, the stroke and the fill are replaced or added, and the classes are added last.
What a pass takes away is an attribute with its value, and the value may hold anything, so a pass can
take away what another one has to find or has written before. As long as no value that is taken away
holds an opening tag, and no value of a fill holds a stroke, the passes do not get into each other's
way and the component has all of its attributes (`TakesOnlyAttributes`). A stroke in the value of a
fill is lost with it.
-/

namespace Snippet.Markup.Svg

open Text (Apart IsMark Pattern)

/-! ## What a pass finds -/

def markedAttribute (name : Text) (mark : Char) (value : Text) : Text :=
  name ++ "=" ++ mark :: (value ++ [mark])

def removedValue? (name svg : Text) : Option Text :=
  ((Pattern.afterBlanks (attributeNamed name)).find svg).map (·.found)

def replacedValue? (name svg : Text) : Option Text :=
  ((Pattern.atWordStart (attributeNamed name)).find svg).map (·.found)

section Finding

variable {name value t behind : Text} {previous : Option Char}

theorem attributeNamed_eq_some (found : attributeNamed name previous t = some (value, behind)) :
    ∃ mark, IsMark mark ∧ t = markedAttribute name mark value ++ behind := by
  obtain ⟨rest, start, quotation⟩ := Option.bind_eq_some_iff.1 found
  rw [Text.dropStart?_eq_some_iff] at start
  cases rest with
  | nil => contradiction
  | cons mark rest =>
    rw [Pattern.quotation_cons, Option.ite_none_right_eq_some] at quotation
    obtain ⟨isMark, cut⟩ := quotation
    obtain ⟨rfl, _⟩ := Text.splitOnce_eq_some cut
    exact ⟨mark, isMark, by simp [start, markedAttribute]⟩

/-- A removal takes away an attribute with the blanks before it, or nothing. -/
theorem removeAttribute_cases (name svg : Text) :
    removeAttribute name svg = svg ∨
      ∃ before blanks mark value behind, Text.isBlank blanks = true ∧ IsMark mark ∧
        removedValue? name svg = some value ∧
        svg = before ++ blanks ++ markedAttribute name mark value ++ behind ∧
        removeAttribute name svg = before ++ behind := by
  cases found : (Pattern.afterBlanks (attributeNamed name)).find svg with
  | none => exact Or.inl (Pattern.replaceFirst_of_find_eq_none found)
  | some m =>
    obtain ⟨place, rfl, applies⟩ := Pattern.findFrom_eq_some found
    cases place with
    | nil => contradiction
    | cons c rest =>
      rw [Pattern.afterBlanks, Option.ite_none_right_eq_some] at applies
      obtain ⟨blank, applies⟩ := applies
      obtain ⟨mark, isMark, here⟩ := attributeNamed_eq_some applies
      have blanks : Text.isBlank (c :: rest.takeWhile Unicode.isBlank) = true := by
        simp [Text.isBlank, blank]
      refine Or.inr ⟨m.before, _, mark, m.found, m.after, blanks, isMark, ?_, ?_, ?_⟩
      · rw [removedValue?, found, Option.map_some]
      · rw [List.append_assoc, List.append_assoc, ← here, Text.trimStart, List.cons_append,
          List.takeWhile_append_dropWhile]
      · rw [removeAttribute, Pattern.replaceFirst, found]
        simp

/-- An attribute that is set replaces one of its name, or it is added behind the opening tag. -/
theorem setAttribute_cases (name value svg : Text) :
    setAttribute name value svg = addAttribute (attributeText name value) svg ∨
      ∃ before mark old behind, IsMark mark ∧ replacedValue? name svg = some old ∧
        svg = before ++ markedAttribute name mark old ++ behind ∧
        setAttribute name value svg = before ++ attributeText name value ++ behind := by
  rw [setAttribute]
  cases found : (Pattern.atWordStart (attributeNamed name)).find svg with
  | none => exact Or.inl rfl
  | some m =>
    obtain ⟨place, rfl, applies⟩ := Pattern.findFrom_eq_some found
    rw [Pattern.atWordStart, Option.ite_none_left_eq_some] at applies
    obtain ⟨mark, isMark, here⟩ := attributeNamed_eq_some applies.2
    refine Or.inr ⟨m.before, mark, m.found, m.after, isMark, ?_, ?_, ?_⟩
    · rw [replacedValue?, found, Option.map_some]
    · rw [List.append_assoc, ← here]
    · dsimp only
      rw [Pattern.replaceFirst, found]

end Finding

/-! ## What a pass leaves -/

section Leaving

variable {name value svg : Text}

theorem mark_notMem_openingTag {mark : Char} (isMark : IsMark mark) : mark ∉ openingTag := by
  rcases isMark with rfl | rfl <;> decide

theorem openingTag_outside {before old behind : Text} {mark : Char} (isMark : IsMark mark)
    (apart : Apart openingTag (name ++ "=")) (kept : ¬ openingTag <:+: old)
    (tag : openingTag <:+: before ++ markedAttribute name mark old ++ behind) :
    openingTag <:+: before ∨ openingTag <:+: behind := by
  have absent := mark_notMem_openingTag isMark
  have shape : before ++ markedAttribute name mark old ++ behind =
      before ++ (name ++ "=") ++ mark :: (old ++ mark :: behind) := by
    simp [markedAttribute]
  -- Without a mark in it the tag is before the first mark, in the value or behind the second one.
  rw [shape, Text.infix_append_cons_iff absent, Text.infix_append_cons_iff absent,
    or_iff_right kept] at tag
  refine tag.imp_left fun beforeMark => ?_
  have filled : openingTag ≠ [] := by decide
  rw [← List.append_nil (before ++ _)] at beforeMark
  exact (apart.infix_append filled beforeMark).resolve_right fun empty =>
    filled (List.infix_nil.1 empty)

theorem openingTag_before_blanks {before blanks : Text} (blank : Text.isBlank blanks = true)
    (tag : openingTag <:+: before ++ blanks) : openingTag <:+: before := by
  have visible : Text.Unbroken openingTag := by decide
  cases blanks with
  | nil => rwa [List.append_nil] at tag
  | cons c rest =>
    have allBlank := List.all_eq_true.1 blank
    have hidden {d : Char} (listed : d ∈ c :: rest) : d ∉ openingTag := by
      intro inside
      simpa [visible d inside] using allBlank d listed
    -- The tag has no blank, so it ends before the first one, or it is among the blanks.
    rw [Text.infix_append_cons_iff (hidden List.mem_cons_self)] at tag
    refine tag.resolve_right fun inside => ?_
    exact hidden (List.mem_cons_of_mem c (inside.subset (List.mem_cons_self (a := '<')))) (by decide)

theorem openingTag_removeAttribute (apart : Apart openingTag (name ++ "="))
    (kept : ∀ old ∈ removedValue? name svg, ¬ openingTag <:+: old) (tag : openingTag <:+: svg) :
    openingTag <:+: removeAttribute name svg := by
  rcases removeAttribute_cases name svg with
    same | ⟨before, blanks, mark, old, behind, blank, isMark, found, whole, removed⟩
  · rwa [same]
  · rw [removed]
    rw [whole] at tag
    cases openingTag_outside isMark apart (kept old found) tag with
    | inl first => exact (openingTag_before_blanks blank first).trans List.infix_append_left
    | inr later => exact later.trans List.infix_append_right

/-- Behind an added attribute the opening tag is as it was, and so is the tag with the attribute. -/
theorem openingTag_addAttribute {added : Text} (tag : openingTag <:+: svg) :
    (openingTag ++ " " ++ added : Text) <:+: addAttribute added svg := by
  rcases Text.replaceFirst_cases openingTag (openingTag ++ " " ++ added) svg with
    ⟨missing, _⟩ | ⟨before, behind, _, written⟩
  · contradiction
  · rw [addAttribute, written]
    exact List.infix_append before _ behind

theorem openingTag_of_addAttribute {added : Text} (tag : openingTag <:+: addAttribute added svg) :
    openingTag <:+: svg := by
  rcases Text.replaceFirst_cases openingTag (openingTag ++ " " ++ added) svg with
    ⟨_, same⟩ | ⟨before, behind, whole, _⟩
  · rwa [addAttribute, same] at tag
  · rw [whole]
    exact List.infix_append before _ behind

theorem openingTag_addAttribute_iff {added : Text} :
    openingTag <:+: addAttribute added svg ↔ openingTag <:+: svg := by
  refine ⟨openingTag_of_addAttribute, fun tag => ?_⟩
  have start : openingTag <:+: (openingTag ++ " " ++ added : Text) :=
    List.infix_append_of_infix_left List.infix_append_left
  exact start.trans (openingTag_addAttribute tag)

theorem added_of_openingTag {added : Text} (tag : openingTag <:+: svg) :
    added <:+: addAttribute added svg :=
  List.infix_append_right.trans (openingTag_addAttribute tag)

theorem openingTag_setAttribute (apart : Apart openingTag (name ++ "="))
    (kept : ∀ old ∈ replacedValue? name svg, ¬ openingTag <:+: old) (tag : openingTag <:+: svg) :
    openingTag <:+: setAttribute name value svg := by
  rcases setAttribute_cases name value svg with
    same | ⟨before, mark, old, behind, isMark, found, whole, written⟩
  · rwa [same, openingTag_addAttribute_iff]
  · rw [written]
    rw [whole] at tag
    exact Text.infix_append_of_outside _ (openingTag_outside isMark apart (kept old found) tag)

/-- A drawing that still has an opening tag has the attribute that was set. -/
theorem attributeText_setAttribute (tag : openingTag <:+: setAttribute name value svg) :
    attributeText name value <:+: setAttribute name value svg := by
  rcases setAttribute_cases name value svg with
    same | ⟨before, _, _, behind, _, _, _, written⟩
  · rw [same, openingTag_addAttribute_iff] at tag
    rw [same]
    exact added_of_openingTag tag
  · rw [written]
    exact List.infix_append before _ behind

end Leaving

/-! ## The stroke and the fill -/

def strokeText : Text := attributeText "stroke" "currentColor"

def fillText : Text := attributeText "fill" "none"

/-- What is left of the stroke before its first mark cannot be told from a stroke of any value. -/
theorem stroke_isPrefix_of_getLast? {part : Text} {mark : Char} (isMark : IsMark mark)
    (start : part <+: strokeText) (ending : part.getLast? = some mark) :
    ("stroke=" : Text) <+: part := by
  have listed : part ∈ strokeText.inits := (List.mem_inits _ _).2 start
  -- Every beginning that ends in a mark is longer than the name.
  have inits : ∀ part ∈ strokeText.inits, (part.getLast? = some '"' ∨ part.getLast? = some '\'') →
      ("stroke=" : Text) <+: part := by decide
  rcases isMark with rfl | rfl
  · exact inits part listed (Or.inl ending)
  · exact inits part listed (Or.inr ending)

theorem stroke_infix_markedAttribute {mark : Char} {old : Text} (isMark : IsMark mark)
    (inside : ("stroke=" : Text) <:+: markedAttribute "fill" mark old) :
    ("stroke=" : Text) <:+: old := by
  have absent : mark ∉ ("stroke=" : Text) := by
    rcases isMark with rfl | rfl <;> decide
  rw [markedAttribute, Text.infix_append_cons_iff absent, Text.infix_append_cons_iff absent] at inside
  rcases inside with name | value | empty
  · exact absurd name (by decide)
  · exact value
  · exact absurd empty (by decide)

theorem apart_strokeText {mark : Char} {old : Text} (isMark : IsMark mark)
    (kept : ¬ ("stroke=" : Text) <:+: old) : Apart strokeText (markedAttribute "fill" mark old) := by
  constructor
  · -- A part at the end of the fill ends with its mark, and a stroke with a mark has its whole name.
    rintro ⟨part, ending, filled, alike⟩
    rw [List.mem_tails] at ending
    have last : part.getLast? = some mark := by
      obtain ⟨front, whole⟩ := ending
      rw [← List.getLast?_append_of_ne_nil front filled, whole, markedAttribute,
        ← List.cons_append, ← List.append_assoc, List.getLast?_concat]
    have start : ("stroke=" : Text) <+: part := by
      cases alike with
      | inl whole => exact List.IsPrefix.trans (by decide) whole
      | inr start => exact stroke_isPrefix_of_getLast? isMark start last
    exact kept (stroke_infix_markedAttribute isMark (start.isInfix.trans ending.isInfix))
  · -- No part of the stroke can be taken for the name of the fill.
    rintro ⟨part, ending, filled, alike⟩
    have outside : ¬ Text.BeginsInside ("fill=" : Text) strokeText := by decide
    have name : ("fill=" : Text) <+: markedAttribute "fill" mark old := List.prefix_append _ _
    refine outside ⟨part, ending, filled, ?_⟩
    cases alike with
    | inl whole => exact Or.inl (name.trans whole)
    | inr start => exact List.prefix_or_prefix_of_prefix name start

/-- A stroke survives that the fill is set, unless it is in the value that the fill had. -/
theorem strokeText_setFill {svg : Text}
    (kept : ∀ old ∈ replacedValue? "fill" svg, ¬ ("stroke=" : Text) <:+: old)
    (stroke : strokeText <:+: svg) : strokeText <:+: setAttribute "fill" "none" svg := by
  have filled : strokeText ≠ [] := by decide
  rcases setAttribute_cases "fill" "none" svg with
    same | ⟨before, mark, old, behind, isMark, found, whole, written⟩
  · have tag : Apart strokeText openingTag := by decide
    have added : Apart strokeText (openingTag ++ " " ++ fillText : Text) := by decide
    rw [same]
    exact (Text.infix_replaceFirst_iff filled tag added svg).2 stroke
  · rw [written]
    rw [whole] at stroke
    exact Text.infix_append_of_outside _
      ((apart_strokeText isMark (kept old found)).infix_append filled stroke)

/-! ## The passes one after another -/

def classText : Text := "className=\x7bclassName\x7d"

def withoutSize (svg : Text) : Text :=
  removeAttribute "height" (removeAttribute "width" (renameAttributes svg))

def stroked (svg : Text) : Text :=
  setAttribute "stroke" "currentColor" (withoutSize svg)

def coloured (svg : Text) : Text :=
  setAttribute "fill" "none" (stroked svg)

theorem styleByClass_eq (svg : Text) : styleByClass svg = addAttribute classText (coloured svg) :=
  rfl

/-- What the component of a drawing has to have in its markup. -/
structure CarriesAttributes (markup : Text) : Prop where
  classes : ("<svg className=\x7bclassName\x7d" : Text) <:+: markup
  stroke : ("stroke=\"currentColor\"" : Text) <:+: markup
  fill : ("fill=\"none\"" : Text) <:+: markup

/-- Whether every pass over a drawing takes away no more than an attribute: no value that goes has an
opening tag, and that of the fill has no stroke. -/
structure TakesOnlyAttributes (svg : Text) : Prop where
  width : ∀ old ∈ removedValue? "width" (renameAttributes svg), ¬ openingTag <:+: old
  height : ∀ old ∈ removedValue? "height" (removeAttribute "width" (renameAttributes svg)),
    ¬ openingTag <:+: old
  stroke : ∀ old ∈ replacedValue? "stroke" (withoutSize svg), ¬ openingTag <:+: old
  fill : ∀ old ∈ replacedValue? "fill" (stroked svg), ¬ openingTag <:+: old
  strokeInFill : ∀ old ∈ replacedValue? "fill" (stroked svg), ¬ ("stroke=" : Text) <:+: old

section Passes

variable {svg : Text}

theorem apart_openingTag_attributeNames :
    ∀ names ∈ attributeNames, Apart openingTag names.1 ∧ Apart openingTag names.2 := by
  decide

theorem openingTag_renameAttributes (tag : openingTag <:+: svg) :
    openingTag <:+: renameAttributes svg := by
  rw [renameAttributes]
  refine List.foldlRecOn attributeNames _ tag fun t ih names listed => ?_
  obtain ⟨old, new⟩ := apart_openingTag_attributeNames names listed
  exact (Text.infix_replaceFirst_iff (by decide) old new t).2 ih

theorem openingTag_stroked (only : TakesOnlyAttributes svg) (tag : openingTag <:+: svg) :
    openingTag <:+: stroked svg := by
  -- The passes in their order, each with the condition for the value that it takes away.
  have renamed := openingTag_renameAttributes tag
  have narrow := openingTag_removeAttribute (by decide) only.width renamed
  have small := openingTag_removeAttribute (by decide) only.height narrow
  exact openingTag_setAttribute (by decide) only.stroke small

theorem openingTag_coloured (only : TakesOnlyAttributes svg) (tag : openingTag <:+: svg) :
    openingTag <:+: coloured svg :=
  openingTag_setAttribute (by decide) only.fill (openingTag_stroked only tag)

theorem strokeText_coloured (only : TakesOnlyAttributes svg) (tag : openingTag <:+: svg) :
    strokeText <:+: coloured svg :=
  strokeText_setFill only.strokeInFill (attributeText_setAttribute (openingTag_stroked only tag))

/-- The classes take no attribute away, so what the passes before have left decides. -/
theorem carriesAttributes_styleByClass_iff :
    CarriesAttributes (styleByClass svg) ↔
      openingTag <:+: coloured svg ∧ strokeText <:+: coloured svg := by
  -- Neither the stroke nor the fill overlaps the tag or what is put behind it.
  have still (text : Text) (filled : text ≠ []) (tag : Apart text openingTag)
      (added : Apart text (openingTag ++ " " ++ classText : Text)) :
      text <:+: addAttribute classText (coloured svg) ↔ text <:+: coloured svg :=
    Text.infix_replaceFirst_iff filled tag added (coloured svg)
  have stroke := still strokeText (by decide) (by decide) (by decide)
  have fill := still fillText (by decide) (by decide) (by decide)
  rw [styleByClass_eq]
  constructor
  · intro carries
    have tag : openingTag <:+: ("<svg className=\x7bclassName\x7d" : Text) := by decide
    exact ⟨openingTag_of_addAttribute (tag.trans carries.classes), stroke.1 carries.stroke⟩
  · rintro ⟨tag, strokeKept⟩
    exact
      { classes := openingTag_addAttribute tag
        stroke := stroke.2 strokeKept
        fill := fill.2 (attributeText_setAttribute tag) }

theorem carriesAttributes_indent_iff :
    CarriesAttributes (Text.indent "  " svg) ↔ CarriesAttributes svg := by
  have margin (text : Text) (visibleStart : ∃ c, text.head? = some c ∧ Unicode.isBlank c = false)
      (oneLine : '\n' ∉ text) (noReturn : '\r' ∉ text) :
      text <:+: Text.indent "  " svg ↔ text <:+: svg :=
    Text.infix_indent_iff (by decide) visibleStart oneLine noReturn svg
  have classes := margin "<svg className=\x7bclassName\x7d" ⟨'<', by decide⟩ (by decide) (by decide)
  have stroke := margin "stroke=\"currentColor\"" ⟨'s', by decide⟩ (by decide) (by decide)
  have fill := margin "fill=\"none\"" ⟨'f', by decide⟩ (by decide) (by decide)
  constructor
  · intro carries
    exact ⟨classes.1 carries.classes, stroke.1 carries.stroke, fill.1 carries.fill⟩
  · intro carries
    exact ⟨classes.2 carries.classes, stroke.2 carries.stroke, fill.2 carries.fill⟩

end Passes

/-! ## Components -/

theorem run_svgTailwind {input svg : Text} (config : Config) (drawing : ofText? input = some svg) :
    Conversion.svgTailwind.run config input =
      .ok (component config.componentName (classParameter config.tailwindClass)
        (styleByClass svg)) := by
  rw [Conversion.run, toStyledComponent?, drawing]
  rfl

/-- The component of a drawing has its classes, its stroke and its fill exactly if the opening tag
and the stroke are left when the fill has been set, and they are left if every pass takes away no
more than an attribute. -/
theorem styled_component_carries_attributes {config : Config} {input output : Text}
    (accepted : Conversion.svgTailwind.run config input = .ok output) :
    ∃ body, output = componentStart config.componentName (classParameter config.tailwindClass) ++
        (body ++ componentEnd config.componentName) ∧
      (CarriesAttributes body ↔
        openingTag <:+: coloured (Text.trim input) ∧ strokeText <:+: coloured (Text.trim input)) ∧
      (TakesOnlyAttributes (Text.trim input) → CarriesAttributes body) := by
  obtain ⟨tag, written⟩ := requireDrawing_eq_ok accepted
  have exactly : CarriesAttributes (Text.indent "  " (styleByClass (Text.trim input))) ↔ _ :=
    carriesAttributes_indent_iff.trans carriesAttributes_styleByClass_iff
  refine ⟨Text.indent "  " (styleByClass (Text.trim input)), ?_, exactly, fun only => ?_⟩
  · rw [written, component_eq]
  · exact exactly.2 ⟨openingTag_coloured only tag, strokeText_coloured only tag⟩

/-- An icon with a size and a fill of its own and the stroke on another element. -/
theorem icon_carries_attributes :
    let icon : Text :=
      "<svg width=\"24\" height='24' fill=\"red\">\n<path stroke='black' d=\"M0 0\"/>\n</svg>"
    ∃ body, Conversion.svgTailwind.run {} icon =
        .ok (componentStart "SvgComponent" (classParameter "w-6 h-6") ++
          (body ++ componentEnd "SvgComponent")) ∧
      TakesOnlyAttributes (Text.trim icon) ∧ CarriesAttributes body := by
  intro icon
  have drawing : ofText? icon = some (Text.trim icon) := by decide +kernel
  have only : TakesOnlyAttributes (Text.trim icon) :=
    { width := by decide +kernel
      height := by decide +kernel
      stroke := by decide +kernel
      fill := by decide +kernel
      strokeInFill := by decide +kernel }
  have accepted := run_svgTailwind {} drawing
  obtain ⟨body, written, _, enough⟩ := styled_component_carries_attributes accepted
  exact ⟨body, accepted.trans (congrArg Except.ok written), only, enough only⟩

/-- A fill whose value holds a stroke takes it away when it is set, and the first width, in a comment
before the drawing, takes the opening tag away with it. -/
theorem stroke_and_opening_tag_lost :
    let icon : Text := "<svg fill='stroke=\"red\"'></svg>"
    let remark : Text := "<!-- width=\" --><svg viewBox=\"0 0 24 24\"></svg>"
    let withoutStroke : Text := "  <svg className=\x7bclassName\x7d fill=\"none\"></svg>"
    let withoutTag : Text := "  <!--0 0 24 24\"></svg>"
    Conversion.svgTailwind.run {} icon =
        .ok (componentStart "SvgComponent" (classParameter "w-6 h-6") ++
          (withoutStroke ++ componentEnd "SvgComponent")) ∧
      ¬ ("stroke=\"currentColor\"" : Text) <:+: withoutStroke ∧
      Conversion.svgTailwind.run {} remark =
        .ok (componentStart "SvgComponent" (classParameter "w-6 h-6") ++
          (withoutTag ++ componentEnd "SvgComponent")) ∧
      ¬ ("<svg className=\x7bclassName\x7d" : Text) <:+: withoutTag := by
  intro icon remark withoutStroke withoutTag
  have drawing : ofText? icon = some icon := by decide +kernel
  have drawing' : ofText? remark = some remark := by decide +kernel
  have body : Text.indent "  " (styleByClass icon) = withoutStroke := by decide +kernel
  have body' : Text.indent "  " (styleByClass remark) = withoutTag := by decide +kernel
  refine ⟨?_, by decide, ?_, by decide⟩
  · rw [run_svgTailwind {} drawing, component_eq, body]
  · rw [run_svgTailwind {} drawing', component_eq, body']

end Snippet.Markup.Svg
