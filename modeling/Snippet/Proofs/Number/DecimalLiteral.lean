import Snippet.Proofs.Number.RoundingError
import Snippet.Proofs.Number.WrittenValue

/-!
# Decimal literals

A decimal literal without sign and exponent writes a rational number, and it is read as this number up
to half a last place.
-/

namespace Snippet.Number

/-- Digits, perhaps with a point and digits behind it. One side of the point may be empty. -/
structure DecimalLiteral where
  whole : Text
  fraction : Option Text
  digits : (whole ++ fraction.getD []).all Char.isDigit = true
  filled : whole ++ fraction.getD [] ≠ []

namespace DecimalLiteral

/-- How many digits stand behind the point. -/
def places (d : DecimalLiteral) : ℕ :=
  (d.fraction.getD []).length

/-- The number that all digits write. -/
def coefficient (d : DecimalLiteral) : ℕ :=
  digitsValue (d.whole ++ d.fraction.getD [])

def text (d : DecimalLiteral) : Text :=
  match d.fraction with
  | none => d.whole
  | some fraction => d.whole ++ '.' :: fraction

def value (d : DecimalLiteral) : ℚ :=
  d.coefficient / 10 ^ d.places

def number (d : DecimalLiteral) : Binary64 :=
  .ofDecimal false d.coefficient (-d.places)

variable (d : DecimalLiteral)

theorem isPositional_text : IsPositional d.text := by
  obtain ⟨whole, fraction, digits, filled⟩ := d
  have isDigit := List.all_eq_true.1 digits
  intro c member
  cases fraction with
  | none => exact Or.inl (isDigit c (by simpa [text] using member))
  | some fraction =>
    simp only [text, List.mem_append, List.mem_cons] at member
    obtain inWhole | rfl | inFraction := member
    · exact Or.inl (isDigit c (List.mem_append_left _ inWhole))
    · exact Or.inr rfl
    · exact Or.inl (isDigit c (List.mem_append_right _ inFraction))

theorem readMantissa_text : readMantissa d.text = ((d.whole, d.fraction.getD []), []) := by
  obtain ⟨whole, fraction, digits, filled⟩ := d
  obtain ⟨wholeDigits, fractionDigits⟩ := List.forall_mem_append.1 (List.all_eq_true.1 digits)
  cases fraction with
  | none => exact readMantissa_digits wholeDigits
  | some fraction => exact readMantissa_point wholeDigits fractionDigits

theorem parse?_text : Binary64.parse? d.text = some d.number :=
  d.isPositional_text.parse?_eq d.readMantissa_text d.filled

theorem isRounded_number : d.number.IsRounded false :=
  Binary64.isRounded_ofDecimal false d.coefficient _

theorem exists_roundedAt_number : ∃ place, Binary64.RoundedAt d.value d.number place := by
  obtain ⟨place, rounded⟩ := Binary64.roundedAt_ofDecimal d.coefficient d.places
  rw [Nat.pow_eq, Nat.cast_pow, Nat.cast_ofNat] at rounded
  exact ⟨place, rounded⟩

theorem text_ne_nil : d.text ≠ [] := by
  obtain ⟨whole, fraction, _, filled⟩ := d
  cases fraction with
  | none => simpa [text] using filled
  | some fraction => simp [text]

end DecimalLiteral

end Snippet.Number
