import Mathlib.Data.List.TakeWhile
import Snippet.Number.Reader
import Snippet.Proofs.Json.NumberText
import Snippet.Proofs.Number.ExactValue
import Snippet.Proofs.Text.Words

/-!
# Values of written numbers

What is read from a text as a number keeps within the bounds of the format, and it is negative only
if the text starts with a minus. Decimal digits are read as the number that they write, exactly up
to `2 ^ 53`. A text that is read as a number has no blank in it.
-/

namespace Snippet.Number

open Json (EndsDigits takeWhile_digits dropWhile_digits isDigit_of_mem_natText digitsValue_natText)
open Text (Unbroken IsWord)

/-! ## Signs and bounds -/

namespace Binary64

theorem isRounded_ofDecimal (negative : Bool) (coefficient : ℕ) (exponent : ℤ) :
    IsRounded negative (ofDecimal negative coefficient exponent) := by
  simp only [ofDecimal]
  split
  next => exact isRounded_zero negative
  next =>
    split
    next => trivial
    next =>
      split
      next => exact isRounded_zero negative
      next => exact isRounded_ofRatio negative _ (Nat.pow_pos (by decide))

end Binary64

theorem isRounded_of_readMagnitude? {negative : Bool} {t : Text} {x : Binary64}
    (read : readMagnitude? negative t = some x) : x.IsRounded negative := by
  simp only [readMagnitude?] at read
  split at read
  next =>
    obtain rfl := Option.some.inj read
    trivial
  next =>
    split at read
    next =>
      obtain rfl := Option.some.inj read
      trivial
    next =>
      split at read
      next => contradiction
      next =>
        obtain ⟨exponent, _, rfl⟩ := Option.map_eq_some_iff.1 read
        exact Binary64.isRounded_ofDecimal negative _ _

theorem Binary64.isRounded_of_parse? {t : Text} {x : Binary64} (parsed : parse? t = some x) :
    x.IsRounded (readSign t).1 :=
  isRounded_of_readMagnitude? parsed

/-! ## Digits -/

theorem natText_injective : Function.Injective natText := by
  intro k k' same
  rw [← digitsValue_natText k, same, digitsValue_natText]

theorem readMantissa_digits {digits : Text} (isDigit : ∀ c ∈ digits, c.isDigit = true) :
    readMantissa digits = ((digits, []), []) := by
  have ends : EndsDigits [] := nofun
  have before := takeWhile_digits isDigit ends
  have behind := dropWhile_digits isDigit ends
  rw [List.append_nil] at before behind
  rw [readMantissa, before, behind]

theorem readMantissa_point {whole fraction : Text} (wholeDigits : ∀ c ∈ whole, c.isDigit = true)
    (fractionDigits : ∀ c ∈ fraction, c.isDigit = true) :
    readMantissa (whole ++ '.' :: fraction) = ((whole, fraction), []) := by
  have point : EndsDigits ('.' :: fraction) := by
    rintro c ⟨⟩
    decide
  have ends : EndsDigits [] := nofun
  have before := takeWhile_digits fractionDigits ends
  have behind := dropWhile_digits fractionDigits ends
  rw [List.append_nil] at before behind
  rw [readMantissa, takeWhile_digits wholeDigits point, dropWhile_digits wholeDigits point]
  simp [before, behind]

def IsPositional (t : Text) : Prop :=
  ∀ c ∈ t, c.isDigit = true ∨ c = '.'

namespace IsPositional

variable {t whole fraction : Text}

theorem notMem (positional : IsPositional t) {c : Char} (noDigit : c.isDigit = false)
    (noPoint : c ≠ '.') : c ∉ t := by
  intro member
  cases positional c member with
  | inl digit => exact absurd digit (by simp [noDigit])
  | inr point => exact noPoint point

theorem readSign_eq (positional : IsPositional t) : readSign t = (false, t) := by
  cases t with
  | nil => rfl
  | cons c rest =>
    have noMinus : '-' ∉ c :: rest := positional.notMem (by decide) (by decide)
    have noPlus : '+' ∉ c :: rest := positional.notMem (by decide) (by decide)
    rw [List.mem_cons, not_or] at noMinus noPlus
    rw [readSign, if_neg (Ne.symm noMinus.1), if_neg (Ne.symm noPlus.1)]

theorem lowerAscii_eq (positional : IsPositional t) : Text.lowerAscii t = t := by
  apply Text.lowerAscii_eq_self
  intro c member
  rw [← Bool.not_eq_true, Unicode.isUpper_iff_toNat]
  cases positional c member with
  | inl digit =>
    have below : c.toNat ≤ 57 := (Char.isDigit_iff_toNat.1 digit).2
    omega
  | inr point =>
    rw [point]
    decide

/-- A text that is all mantissa is none of the words that stand for numbers. -/
theorem parse?_eq (positional : IsPositional t)
    (mantissa : readMantissa t = ((whole, fraction), [])) (filled : whole ++ fraction ≠ []) :
    Binary64.parse? t =
      some (.ofDecimal false (digitsValue (whole ++ fraction)) (-fraction.length)) := by
  have letter : 'n' ∉ t := positional.notMem (by decide) (by decide)
  have noNan : t ≠ ['n', 'a', 'n'] := fun same => letter (same ▸ by decide)
  have noInf : t ≠ ['i', 'n', 'f'] := fun same => letter (same ▸ by decide)
  have noInfinity : t ≠ ['i', 'n', 'f', 'i', 'n', 'i', 't', 'y'] := fun same =>
    letter (same ▸ by decide)
  have digit : (whole.isEmpty && fraction.isEmpty) = false := by
    rw [← Bool.not_eq_true, Bool.and_eq_true, List.isEmpty_iff, List.isEmpty_iff,
      ← List.append_eq_nil_iff]
    exact filled
  rw [Binary64.parse?, positional.readSign_eq]
  simp [readMagnitude?, positional.lowerAscii_eq, noNan, noInf, noInfinity, mantissa, digit,
    readExponent?]

end IsPositional

/-- A text of decimal digits that writes a number, perhaps with needless zeros in front. -/
structure Writes (digits : Text) (n : ℕ) : Prop where
  filled : digits ≠ []
  isDigit : ∀ c ∈ digits, c.isDigit = true
  value : digitsValue digits = n

theorem writes_natText (n : ℕ) : Writes (natText n) n where
  filled := Nat.toDigits_ne_nil
  isDigit _ := isDigit_of_mem_natText
  value := digitsValue_natText n

namespace Writes

variable {digits : Text} {n : ℕ}

theorem ne_of_mem (written : Writes digits n) {c d : Char} (member : c ∈ digits)
    (other : d.isDigit = false) : c ≠ d :=
  Json.ne_of_isDigit (written.isDigit c member) other

theorem parse?_eq (written : Writes digits n) :
    Binary64.parse? digits = some (.ofDecimal false n 0) := by
  have positional : IsPositional digits := fun c member => Or.inl (written.isDigit c member)
  have filled : digits ++ [] ≠ [] := by simpa using written.filled
  rw [positional.parse?_eq (readMantissa_digits written.isDigit) filled, List.append_nil, written.value]
  rfl

end Writes

theorem Binary64.rational?_ofDecimal_zero {n : ℕ} (small : n ≤ Nat.pow 2 53) :
    (ofDecimal false n 0).rational? = some (n : ℚ) := by
  by_cases zero : n = 0
  · simp [ofDecimal, zero, rational?]
  · have represented : Representable (n / (1 : ℕ)) := by
      rw [Nat.cast_one, div_one]
      cases Nat.lt_or_eq_of_le small with
      | inl below => exact ⟨n, 0, below, by decide, by simp⟩
      -- `2 ^ 53` has a digit too many, but its last digit is zero.
      | inr same => exact ⟨Nat.pow 2 52, 1, by decide, by decide, by rw [same]; norm_num⟩
    have within : (n : ℚ) / (1 : ℕ) < 2 ^ (1024 : ℤ) := by
      rw [Nat.cast_one, div_one]
      calc (n : ℚ) ≤ 2 ^ (53 : ℤ) := by exact_mod_cast small
        _ < 2 ^ (1024 : ℤ) := zpow_lt_zpow_right₀ one_lt_two (by decide)
    have decimal : ofDecimal false n 0 = ofRatio false n 1 := by simp [ofDecimal, zero]
    rw [decimal, rational?_ofRatio false Nat.one_pos represented, if_pos within]
    simp

/-! ## Characters -/

section Characters

variable {t : Text} {c : Char}

theorem mem_readSign (member : c ∈ t) : Unicode.isBlank c = false ∨ c ∈ (readSign t).2 := by
  cases t with
  | nil => contradiction
  | cons d rest =>
    have minus : Unicode.isBlank '-' = false := by decide
    have plus : Unicode.isBlank '+' = false := by decide
    rw [List.mem_cons] at member
    simp only [readSign]
    grind

theorem mem_dropWhile_digits (member : c ∈ t) :
    Unicode.isBlank c = false ∨ c ∈ t.dropWhile Char.isDigit := by
  have parts : t.takeWhile Char.isDigit ++ t.dropWhile Char.isDigit = t :=
    List.takeWhile_append_dropWhile
  rw [← parts, List.mem_append] at member
  cases member with
  | inl digit => exact Or.inl (Unicode.isBlank_of_isDigit (List.mem_takeWhile_imp digit))
  | inr later => exact Or.inr later

theorem mem_readMantissa (member : c ∈ t) :
    Unicode.isBlank c = false ∨ c ∈ (readMantissa t).2 := by
  cases mem_dropWhile_digits member with
  | inl unbroken => exact Or.inl unbroken
  | inr later =>
    rw [readMantissa]
    cases behind : t.dropWhile Char.isDigit with
    | nil => simp [behind] at later
    | cons d rest =>
      rw [behind, List.mem_cons] at later
      by_cases point : d = '.'
      · simp only [point, if_true]
        cases later with
        | inl same => exact Or.inl (by rw [same, point]; decide)
        | inr inFraction => exact mem_dropWhile_digits inFraction
      · simp only [point, if_false]
        exact Or.inr (List.mem_cons.2 later)

theorem isBlank_of_readExponent? {exponent : ℤ} (read : readExponent? t = some exponent)
    (member : c ∈ t) : Unicode.isBlank c = false := by
  cases t with
  | nil => contradiction
  | cons d rest =>
    simp only [readExponent?] at read
    split at read
    next mark =>
      cases List.mem_cons.1 member with
      | inl same =>
        have letter : d = 'e' ∨ d = 'E' := by simpa using mark
        cases letter with
        | inl small => rw [same, small]; decide
        | inr capital => rw [same, capital]; decide
      | inr inRest =>
        cases mem_readSign inRest with
        | inl unbroken => exact unbroken
        | inr inDigits =>
          split at read
          next => contradiction
          next noFault =>
            simp only [Bool.or_eq_true, Bool.not_eq_true', not_or, Bool.not_eq_false] at noFault
            exact Unicode.isBlank_of_isDigit (List.all_eq_true.1 noFault.2 c inDigits)
    next => contradiction

theorem isBlank_of_lowerAscii_eq {word : Text} (isWord : IsWord word) (same : t.lowerAscii = word)
    (member : c ∈ t) : Unicode.isBlank c = false := by
  rw [← Text.isBlank_toLower]
  apply isWord.unbroken
  exact same ▸ List.mem_map_of_mem member

theorem isBlank_of_readMagnitude? {negative : Bool} {x : Binary64}
    (read : readMagnitude? negative t = some x) (member : c ∈ t) : Unicode.isBlank c = false := by
  simp only [readMagnitude?] at read
  split at read
  next nan => exact isBlank_of_lowerAscii_eq (by decide) nan member
  next =>
    split at read
    next infinity =>
      simp only [Bool.or_eq_true, decide_eq_true_eq] at infinity
      cases infinity with
      | inl short => exact isBlank_of_lowerAscii_eq (by decide) short member
      | inr long => exact isBlank_of_lowerAscii_eq (by decide) long member
    next =>
      split at read
      next => contradiction
      next =>
        obtain ⟨exponent, readExponent, _⟩ := Option.map_eq_some_iff.1 read
        cases mem_readMantissa member with
        | inl unbroken => exact unbroken
        | inr inExponent => exact isBlank_of_readExponent? readExponent inExponent

theorem unbroken_of_parse? {x : Binary64} (parsed : Binary64.parse? t = some x) : Unbroken t := by
  intro c member
  cases mem_readSign member with
  | inl unbroken => exact unbroken
  | inr inMagnitude => exact isBlank_of_readMagnitude? parsed inMagnitude

end Characters

end Snippet.Number
