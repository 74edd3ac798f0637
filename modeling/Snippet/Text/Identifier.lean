import Snippet.Text.Quoted

/-!
# Property keys

An object key is written bare when it is an identifier: an ASCII letter, an underscore or a dollar
sign, followed by any number of these and of digits. Every other key is written in double quotation
marks, and since no identifier starts with one the two forms cannot be confused.
-/

namespace Snippet.Text

def isIdentifierStart (c : Char) : Bool :=
  c.isAlpha || c = '_' || c = '$'

def isIdentifierPart (c : Char) : Bool :=
  isIdentifierStart c || c.isDigit

/-- Whether a text can be written as a bare property name. -/
def isIdentifier : Text → Bool
  | [] => false
  | c :: rest => isIdentifierStart c && rest.all isIdentifierPart

theorem ne_nil_of_isIdentifier {t : Text} (identifier : isIdentifier t = true) : t ≠ [] := by
  rintro rfl
  contradiction

theorem isIdentifier_append {t ending : Text} (identifier : isIdentifier t = true)
    (parts : ∀ c ∈ ending, isIdentifierPart c = true) : isIdentifier (t ++ ending) = true := by
  cases t with
  | nil => contradiction
  | cons c rest =>
    rw [isIdentifier, Bool.and_eq_true, List.all_eq_true] at identifier
    rw [List.cons_append, isIdentifier, Bool.and_eq_true, List.all_eq_true]
    exact ⟨identifier.1, List.forall_mem_append.2 ⟨identifier.2, parts⟩⟩

theorem isIdentifier_of_append {t ending : Text} (filled : t ≠ [])
    (identifier : isIdentifier (t ++ ending) = true) : isIdentifier t = true := by
  cases t with
  | nil => contradiction
  | cons c rest =>
    rw [List.cons_append, isIdentifier, List.all_append, ← Bool.and_assoc, Bool.and_eq_true]
      at identifier
    exact identifier.1

def propertyKey (key : Text) : Text :=
  if isIdentifier key then key else quote key

end Snippet.Text
