import Snippet.Text.Lines

/-!
# Style declarations

A declaration is a property and a value with a colon between them and perhaps a semicolon at the
end. Neither part is empty, and blanks around them do not count.

`Declaration.parse?_eq_some` says what the two parts of a declaration look like.
-/

namespace Snippet.Style

structure Declaration where
  property : Text
  value : Text
  deriving DecidableEq, Repr

namespace Declaration

/-- The value of a declaration, from the text after the colon: one semicolon at its end is not part
of it. -/
def valueOf (t : Text) : Text :=
  Text.trimEnd (Text.dropEnding [';'] (Text.trim t))

/-- The declaration that a fragment of a style sheet holds: the property ends at the first colon. -/
def parse? (fragment : Text) : Option Declaration :=
  match Text.splitOnce ':' fragment with
  | none => none
  | some (before, after) =>
    let property := Text.trim before
    let value := valueOf after
    if property.isEmpty || value.isEmpty then none else some ⟨property, value⟩

theorem parse?_eq_some {fragment : Text} {d : Declaration} (parsed : parse? fragment = some d) :
    ∃ before after, fragment = before ++ ':' :: after ∧ ':' ∉ before ∧
      d.property = Text.trim before ∧ d.value = valueOf after ∧
      d.property ≠ [] ∧ d.value ≠ [] := by
  simp only [parse?] at parsed
  split at parsed
  · contradiction
  next before after cut =>
    split at parsed
    · contradiction
    next filled =>
      obtain rfl := Option.some.inj parsed
      obtain ⟨whole, absent⟩ := Text.splitOnce_eq_some cut
      exact ⟨before, after, whole, absent, rfl, rfl, by simpa using filled⟩

end Declaration

end Snippet.Style
