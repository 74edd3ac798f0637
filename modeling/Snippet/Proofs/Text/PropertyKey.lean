import Snippet.Proofs.Json.StringText
import Snippet.Proofs.Naming.NameCharacters

/-!
# Reading property keys back

A property key is written bare or in quotation marks, and the text that is written shows which. With
a colon behind it a written key also shows where it ends: a bare key has no colon, and a quoted one
ends at its closing mark, whatever stands inside. A written key stays on one line.
-/

namespace Snippet.Text

open Naming (isNameChar isNameChar_of_isIdentifier)

theorem propertyKey_cases (key : Text) :
    (isIdentifier key = true ∧ propertyKey key = key) ∨ propertyKey key = quote key := by
  unfold propertyKey
  split
  next identifier => exact Or.inl ⟨identifier, rfl⟩
  next => exact Or.inr rfl

theorem notMem_of_isIdentifier {t : Text} (identifier : isIdentifier t = true) {c : Char}
    (foreign : isNameChar c = false) : c ∉ t := by
  intro member
  simp [isNameChar_of_isIdentifier identifier c member] at foreign

theorem newline_notMem_propertyKey (key : Text) : '\n' ∉ propertyKey key := by
  rcases propertyKey_cases key with ⟨identifier, written⟩ | written
  · rw [written]
    exact notMem_of_isIdentifier identifier (by decide)
  · rw [written]
    intro member
    exact absurd (Json.printed_of_mem_quote member) (by decide)

theorem identifier_ne_quote {key other rest rest' : Text} (identifier : isIdentifier key = true) :
    key ++ rest ≠ quote other ++ rest' := by
  cases key with
  | nil => contradiction
  | cons c key =>
    intro same
    obtain rfl : c = '"' := (List.cons.inj same).1
    have absent : '"' ∉ '"' :: key := notMem_of_isIdentifier identifier (by decide)
    exact absent List.mem_cons_self

theorem propertyKey_append_inj {key key' rest rest' : Text}
    (same : propertyKey key ++ ':' :: rest = propertyKey key' ++ ':' :: rest') :
    key = key' ∧ rest = rest' := by
  rcases propertyKey_cases key with ⟨identifier, written⟩ | written <;>
    rcases propertyKey_cases key' with ⟨identifier', written'⟩ | written' <;>
    rw [written, written'] at same
  -- No identifier has a colon.
  · exact append_cons_inj (notMem_of_isIdentifier identifier (by decide))
      (notMem_of_isIdentifier identifier' (by decide)) same
  -- A bare key is no quoted one, since no identifier has a mark.
  · exact absurd same (identifier_ne_quote identifier)
  · exact absurd same.symm (identifier_ne_quote identifier')
  · obtain ⟨keys, rests⟩ := Json.quote_append_inj same
    exact ⟨keys, (List.cons.inj rests).2⟩

theorem propertyKey_injective : Function.Injective propertyKey :=
  fun _ _ same => (propertyKey_append_inj (congrArg (· ++ [':']) same)).1

end Snippet.Text
