import Snippet.Conversion.Run
import Snippet.Proofs.Distinct

/-!
# Class lists of several style sheets

Style sheets that are written one after another, with a separator between them, have the classes of
the first one and then those of the second one that are new. So a style sheet may be repeated
without any effect.
-/

namespace Snippet.Style

theorem isSeparator_iff {c : Char} : isSeparator c = true ↔ c ∈ ['\n', ';', '\x7b', '\x7d'] := by
  simp [isSeparator, or_assoc]

theorem allClasses_append {separator : Char} (separates : isSeparator separator = true)
    (first second : Text) :
    allClasses (first ++ separator :: second) = allClasses first ++ allClasses second := by
  rw [allClasses, Text.split_append_cons separates, List.filterMap_append, List.flatMap_append]
  rfl

theorem classList_append {separator : Char} (separates : isSeparator separator = true)
    (first second : Text) :
    classList (first ++ separator :: second) =
      classList first ++ (classList second).filter (· ∉ classList first) := by
  rw [classList, allClasses_append separates, eraseDups_append_eq_filter]
  rfl

theorem classList_append_of_subset {separator : Char} (separates : isSeparator separator = true)
    {first second : Text} (known : classList second ⊆ classList first) :
    classList (first ++ separator :: second) = classList first := by
  have nothing : (classList second).filter (· ∉ classList first) = [] := by
    rw [List.filter_eq_nil_iff]
    intro name listed
    simp [known listed]
  rw [classList_append separates, nothing, List.append_nil]

theorem classList_repeated {separator : Char} (separates : isSeparator separator = true)
    (sheet : Text) (repetitions : Nat) :
    classList (Text.join [separator] (List.replicate (repetitions + 1) sheet)) =
      classList sheet := by
  induction repetitions with
  | zero => exact congrArg classList List.intercalate_singleton
  | succ repetitions ih =>
    have cut : Text.join [separator] (List.replicate (repetitions + 2) sheet) =
        sheet ++ separator :: Text.join [separator] (List.replicate (repetitions + 1) sheet) := by
      rw [List.replicate_succ, List.replicate_succ, Text.join, List.intercalate_cons_cons]
      simp [Text.join]
    rw [cut]
    -- The repetitions behind the first sheet have its classes, by induction.
    exact classList_append_of_subset separates (ih ▸ List.Subset.refl _)

/-- Two style sheets with a separator between them become the classes of the first one followed by
those of the second one that the first one does not have, in their order. A style sheet that is
written several times becomes what it becomes alone. -/
theorem sheets_compose {separator : Char} (listed : separator ∈ ['\n', ';', '\x7b', '\x7d'])
    (config : Config) (first second : Text) :
    classList (first ++ separator :: second) =
        classList first ++ (classList second).filter (· ∉ classList first) ∧
      Conversion.cssTailwind.run config (first ++ separator :: second) =
        .ok (Text.join [' ']
          (classList first ++ (classList second).filter (· ∉ classList first))) ∧
      ∀ repetitions, Conversion.cssTailwind.run config
          (Text.join [separator] (List.replicate (repetitions + 1) first)) =
        Conversion.cssTailwind.run config first := by
  have separates := isSeparator_iff.2 listed
  refine ⟨classList_append separates first second, ?_, ?_⟩
  · show Except.ok (Text.join [' '] (classList (first ++ separator :: second))) = _
    rw [classList_append separates]
  · intro repetitions
    show Except.ok (Text.join [' '] (classList _)) = Except.ok (Text.join [' '] (classList first))
    rw [classList_repeated separates]

/-- The second style sheet declares one thing again and another one as well. -/
theorem flex_listed_once :
    let first : Text := ".row\x7bdisplay: flex; position: fixed"
    let second : Text := "cursor: wait; DISPLAY: FLEX !important"
    '\x7d' ∈ ['\n', ';', '\x7b', '\x7d'] ∧
      Conversion.cssTailwind.run {} (first ++ '\x7d' :: second) =
        .ok "flex fixed cursor-wait" ∧
      Conversion.cssTailwind.run {} (Text.join ['\x7d'] [first, first, first]) =
        .ok "flex fixed" := by
  intro first second
  have listed : '\x7d' ∈ ['\n', ';', '\x7b', '\x7d'] := by decide
  obtain ⟨_, composed, repeated⟩ := sheets_compose listed {} first second
  have classes : classList first = [↑"flex", ↑"fixed"] := by decide +kernel
  have others : classList second = [↑"cursor-wait", ↑"flex"] := by decide +kernel
  refine ⟨listed, composed.trans ?_, (repeated 2).trans ?_⟩
  · rw [classes, others]
    rfl
  · show Except.ok (Text.join [' '] (classList first)) = _
    rw [classes]
    rfl

end Snippet.Style
