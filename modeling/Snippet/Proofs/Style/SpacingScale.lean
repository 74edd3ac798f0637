import Snippet.Proofs.Number.WrittenValue
import Snippet.Style.Spacing

/-!
# Whole lengths on the spacing scale

A class of the spacing scale is made of a stem, a step and perhaps a minus. Whole lengths are found
on the scale exactly, as long as the number format has all of them.
-/

namespace Snippet.Style

open Snippet.Number
open Binary64 (rational?_mul_sixteen isWhole_iff isZero_iff equals_iff toWord_of_natCast)

/-! ## What has a class -/

theorem ne_append_of_dropEnding?_eq_none {ending t : Text} (missing : Text.dropEnding? ending t = none)
    (rest : Text) : t ≠ rest ++ ending := by
  intro same
  rw [Text.dropEnding?_eq_some_iff.2 same] at missing
  contradiction

theorem unit_ends (number other : Text) :
    ['0'] ≠ number ++ "px" ∧ ['0'] ≠ number ++ "rem" ∧ number ++ "px" ≠ other ++ "rem" := by
  refine ⟨fun same => ?_, fun same => ?_, fun same => ?_⟩
  · simpa using congrArg List.getLast? same
  · simpa using congrArg List.getLast? same
  · simpa using congrArg List.getLast? same

theorem pixels?_eq_some_iff {magnitude : Text} {x : Binary64} :
    pixels? magnitude = some x ↔
      (magnitude = ['0'] ∧ x = .ofNat 0) ∨
      (∃ number, magnitude = number ++ "px" ∧ Binary64.parse? number = some x) ∨
      (∃ number y, magnitude = number ++ "rem" ∧ Binary64.parse? number = some y ∧
        x = y.mul (.ofNat 16)) := by
  rw [pixels?]
  split
  next zero =>
    subst zero
    -- A plain zero has no unit.
    have noPixels := fun number => (unit_ends number []).1
    have noRoots := fun number => (unit_ends number []).2.1
    simp only [noPixels, noRoots, false_and, exists_false, or_false, true_and, Option.some.injEq]
    exact eq_comm
  next nonzero =>
    simp only [nonzero, false_and, false_or]
    cases pixels : Text.dropEnding? "px" magnitude with
    | some number =>
      obtain rfl := Text.dropEnding?_eq_some_iff.1 pixels
      -- A text does not end in both units.
      have noRoots := fun other => (unit_ends number other).2.2
      simp only [noRoots, false_and, exists_false, or_false, List.append_cancel_right_eq,
        exists_eq_left']
    | none =>
      have noPixels := ne_append_of_dropEnding?_eq_none pixels
      simp only [noPixels, false_and, exists_false, false_or]
      cases roots : Text.dropEnding? "rem" magnitude with
      | some number =>
        obtain rfl := Text.dropEnding?_eq_some_iff.1 roots
        simp only [List.append_cancel_right_eq, Option.map_eq_some_iff]
        grind
      | none =>
        have noRoots := ne_append_of_dropEnding?_eq_none roots
        simp only [noRoots, false_and, exists_false, reduceCtorEq]

theorem spacingClass_eq_some_iff {stem value name : Text} {signed : Bool} :
    spacingClass stem signed value = some name ↔
      (value = "auto" ∧ name = stem ++ "-auto") ∨
      (∃ x, pixels? (splitSign value).2 = some x ∧ ((splitSign value).1 = true → signed = true) ∧
        name = magnitudeClass stem (splitSign value).1 (splitSign value).2 x) := by
  rw [spacingClass]
  split
  next auto =>
    -- The keyword is no length, so the two ways exclude each other.
    have noLength : pixels? (splitSign "auto").2 = none := by decide
    rw [auto, noLength]
    simp only [reduceCtorEq, false_and, exists_false, or_false, true_and, Option.some.injEq]
    exact eq_comm
  next noAuto =>
    simp only [noAuto, false_and, false_or]
    cases splitSign value with
    | mk negative magnitude =>
      by_cases refused : negative = true ∧ signed = false
      · simp [refused]
      · have accepted : negative = true → signed = true := by simpa using refused
        have unsplit : (negative && !signed) = false := by
          cases negative <;> cases signed <;> simp_all
        simp only [unsplit, Bool.false_eq_true, if_false, Option.map_eq_some_iff]
        constructor
        · rintro ⟨x, found, rfl⟩
          exact ⟨x, found, accepted, rfl⟩
        · rintro ⟨x, found, _, rfl⟩
          exact ⟨x, found, rfl⟩

/-! ## Texts of classes -/

def minusText (negative : Bool) : Text :=
  if negative then ['-'] else []

theorem magnitudeClass_eq (stem magnitude : Text) (negative : Bool) (x : Binary64) :
    magnitudeClass stem negative magnitude x =
      minusText (negative && !x.isZero) ++ stem ++ "-" ++
        (step? x).getD ("[" ++ magnitude ++ "]") := by
  rw [magnitudeClass]
  cases step? x with
  | none => rfl
  | some step => rfl

theorem step?_cases {x : Binary64} {step : Text} (found : step? x = some step) :
    step = "px" ∨ ∃ k, step = natText k := by
  simp only [step?] at found
  split at found
  next => exact Or.inl (Option.some.inj found).symm
  next =>
    split at found
    next => exact Or.inr ⟨_, (Option.some.inj found).symm⟩
    next => contradiction

/-- A natural number of pixels is on the scale if it is a multiple of four within the range of
words. -/
theorem step?_of_natCast {x : Binary64} {n : ℕ} (value : x.rational? = some (n : ℚ)) :
    step? x = if n = 1 then some ↑"px"
      else if n < Nat.pow 2 64 ∧ n % 4 = 0 then some (natText (n / 4)) else none := by
  have one : x.equals 1 = decide (n = 1) := by
    rw [Bool.eq_iff_iff, equals_iff Nat.one_pos, value]
    simp
  have whole : x.isWhole = true := isWhole_iff.2 ⟨n, by rw [value, Int.cast_natCast]⟩
  have word := toWord_of_natCast value
  have limit : Nat.pow 2 64 = 18446744073709551616 := by decide
  simp only [step?, one, whole, decide_eq_true_eq, Bool.true_and]
  split
  next => rfl
  next =>
    by_cases within : n < Nat.pow 2 64
    · have same : x.toWord = n := by omega
      simp [same, within]
    -- Beyond the words the number is cut to the greatest one, which is no multiple of four.
    · have greatest : x.toWord = 18446744073709551615 := by omega
      simp [greatest, within]

/-! ## Whole lengths -/

def wholeStep (magnitude : Text) (n : ℕ) : Text :=
  if n = 1 then "px" else if n % 4 = 0 then natText (n / 4) else "[" ++ magnitude ++ "]"

theorem magnitudeClass_of_natCast {x : Binary64} {n : ℕ} (value : x.rational? = some (n : ℚ))
    (word : n < Nat.pow 2 64) (stem magnitude : Text) (negative : Bool) :
    magnitudeClass stem negative magnitude x =
      minusText (negative && n ≠ 0) ++ stem ++ "-" ++ wholeStep magnitude n := by
  have zero : x.isZero = decide (n = 0) := by
    rw [Bool.eq_iff_iff, isZero_iff, value]
    simp
  rw [magnitudeClass_eq, step?_of_natCast value, zero, wholeStep]
  simp only [word, true_and, ne_eq, decide_not]
  split
  next => rfl
  next =>
    split
    next => rfl
    next => rfl

/-- The classes of a magnitude: the same under every sign policy, and with a minus in front of the
magnitude a minus in front of the class, if the length is not zero and the policy allows it. -/
structure ShownAs (stem magnitude : Text) (nonzero : Bool) (step : Text) : Prop where
  plain : ∀ signed, spacingClass stem signed magnitude = some (stem ++ "-" ++ step)
  minus : spacingClass stem true ('-' :: magnitude) =
    some (minusText nonzero ++ stem ++ "-" ++ step)
  refused : spacingClass stem false ('-' :: magnitude) = none

theorem shownAs_of_pixels? {magnitude : Text} {x : Binary64} {n : ℕ}
    (unsigned : splitSign magnitude = (false, magnitude)) (found : pixels? magnitude = some x)
    (value : x.rational? = some (n : ℚ)) (word : n < Nat.pow 2 64) (stem : Text) :
    ShownAs stem magnitude (n ≠ 0) (wholeStep magnitude n) := by
  have written := magnitudeClass_of_natCast value word stem magnitude
  refine ⟨fun signed => ?_, ?_, ?_⟩
  · rw [spacingClass_eq_some_iff, unsigned]
    exact Or.inr ⟨x, found, nofun, (written false).symm⟩
  · rw [spacingClass_eq_some_iff]
    exact Or.inr ⟨x, found, fun _ => rfl, (written true).symm⟩
  · rfl

theorem splitSign_digits {digits : Text} {n : ℕ} (written : Writes digits n) (unit : Text) :
    splitSign (digits ++ unit) = (false, digits ++ unit) := by
  cases digits with
  | nil => exact absurd rfl written.filled
  | cons c rest =>
    have noMinus := written.ne_of_mem List.mem_cons_self (by decide : '-'.isDigit = false)
    exact if_neg noMinus

theorem rational?_ofDecimal_mul_sixteen {n : ℕ} (small : n ≤ Nat.pow 2 53) :
    ((Binary64.ofDecimal false n 0).mul (.ofNat 16)).rational? = some ((16 * n : ℕ) : ℚ) := by
  rw [rational?_mul_sixteen (Binary64.isRounded_ofDecimal false n 0),
    Binary64.rational?_ofDecimal_zero small]
  refine ⟨by simp, ?_⟩
  rw [Nat.abs_cast]
  calc ((16 * n : ℕ) : ℚ) ≤ 2 ^ (57 : ℤ) := by
        have bound : Nat.pow 2 53 = 9007199254740992 := by decide
        exact_mod_cast (by omega : 16 * n ≤ 2 ^ 57)
    _ < 2 ^ (1024 : ℤ) := zpow_lt_zpow_right₀ one_lt_two (by decide)

theorem wholeStep_mul_sixteen (magnitude : Text) (n : ℕ) :
    wholeStep magnitude (16 * n) = natText (4 * n) := by
  have several : 16 * n ≠ 1 := by omega
  have even : 16 * n % 4 = 0 := by omega
  have steps : 16 * n / 4 = 4 * n := by omega
  simp [wholeStep, several, even, steps]

/-- Whole lengths are found on the scale: pixels as they are counted, and root font sizes at four
steps each. -/
theorem whole_length_class {digits : Text} {n : ℕ} (written : Writes digits n)
    (small : n ≤ Nat.pow 2 53) (stem : Text) :
    ShownAs stem (digits ++ "px") (n ≠ 0) (wholeStep (digits ++ "px") n) ∧
      ShownAs stem (digits ++ "rem") (n ≠ 0) (natText (4 * n)) := by
  have bound : 16 * Nat.pow 2 53 < Nat.pow 2 64 := by decide
  have parsed := written.parse?_eq
  have pixels : pixels? (digits ++ "px") = some (.ofDecimal false n 0) :=
    pixels?_eq_some_iff.2 (Or.inr (Or.inl ⟨digits, rfl, parsed⟩))
  have roots : pixels? (digits ++ "rem") = some ((Binary64.ofDecimal false n 0).mul (.ofNat 16)) :=
    pixels?_eq_some_iff.2 (Or.inr (Or.inr ⟨digits, _, rfl, parsed, rfl⟩))
  constructor
  · exact shownAs_of_pixels? (splitSign_digits written "px") pixels
      (Binary64.rational?_ofDecimal_zero small) (by omega) stem
  · have shown := shownAs_of_pixels? (splitSign_digits written "rem") roots
      (rational?_ofDecimal_mul_sixteen small) (by omega) stem
    have sameSign : decide (16 * n ≠ 0) = decide (n ≠ 0) := by simp
    rwa [wholeStep_mul_sixteen, sameSign] at shown

/-- The last whole length up to which every one is kept. -/
theorem greatest_length_class :
    (Writes "9007199254740992" 9007199254740992 ∧ 9007199254740992 ≤ Nat.pow 2 53) ∧
      ShownAs "mt" "9007199254740992px" true "2251799813685248" ∧
      ShownAs "mt" "9007199254740992rem" true "36028797018963968" := by
  have digits : natText 9007199254740992 = "9007199254740992" := by decide
  have written : Writes "9007199254740992" 9007199254740992 := digits ▸ writes_natText _
  have small : 9007199254740992 ≤ Nat.pow 2 53 := by decide
  exact ⟨⟨written, small⟩, whole_length_class written small "mt"⟩

end Snippet.Style
