import Snippet.Proofs.Style.SpacingScale

/-!
# Lengths of the steps

Step `k` of the spacing scale stands for `4 * k` pixels, and a class with a step has the length that
its value denotes. The sign of a value is read before its number, and the number may bring a sign of
its own: a value with two minuses in front of a whole number of pixels gets the step zero with a
minus.
-/

namespace Snippet.Style

open Snippet.Number
open Json (isDigit_of_mem_natText digitsValue_natText)
open Binary64 (withSign rational?_mul_sixteen isWhole_iff isZero_iff equals_iff toWord_of_nonpos
  isRounded_of_parse?)

/-! ## Steps -/

section Steps

variable {x : Binary64}

theorem step?_of_neg {n : ℕ} (positive : 0 < n) (value : x.rational? = some (-(n : ℚ))) :
    step? x = some (natText 0) := by
  have below : -(n : ℚ) < 0 := by
    rw [neg_lt_zero]
    exact_mod_cast positive
  have notOne : x.equals 1 = false := by
    rw [← Bool.not_eq_true, equals_iff Nat.one_pos, value, Option.some.injEq]
    intro same
    rw [same] at below
    exact absurd below (by norm_num)
  have whole : x.isWhole = true := isWhole_iff.2 ⟨-n, by rw [value]; simp⟩
  have word := toWord_of_nonpos value below.le
  -- Read as a word, a negative number is zero, which is a multiple of four.
  simp [step?, notOne, whole, word]

theorem step?_of_not_isWhole (broken : x.isWhole = false) : step? x = none := by
  have notOne : x.equals 1 = false := by
    rw [← Bool.not_eq_true, equals_iff Nat.one_pos]
    intro same
    rw [isWhole_iff.2 ⟨1, by rw [same]; simp⟩] at broken
    contradiction
  simp [step?, notOne, broken]

theorem pixel_ne_natText (k : ℕ) : "px" ≠ natText k := by
  intro same
  have digit := isDigit_of_mem_natText (same ▸ List.mem_cons_self : 'p' ∈ natText k)
  exact absurd digit (by decide)

/-- The lengths that are taken for step `k`: `4 * k` pixels, as far as words go, and for step zero
every negative whole number as well. -/
def TakenForStep (k : ℕ) (q : ℚ) : Prop :=
  (q = 4 * k ∧ 4 * k < Nat.pow 2 64) ∨ (k = 0 ∧ ∃ n : ℕ, 0 < n ∧ q = -n)

theorem takenForStep_natCast_iff {n k : ℕ} :
    TakenForStep k n ↔ n = 4 * k ∧ n < Nat.pow 2 64 := by
  have step : (n : ℚ) = 4 * k ↔ n = 4 * k := by norm_cast
  have notBelow : ¬∃ m : ℕ, 0 < m ∧ (n : ℚ) = -m := by
    rintro ⟨m, positive, same⟩
    have sum : n + m = 0 := by exact_mod_cast eq_neg_iff_add_eq_zero.1 same
    omega
  rw [TakenForStep, step]
  grind

theorem takenForStep_zero_iff {k : ℕ} : TakenForStep k 0 ↔ k = 0 := by
  have positive : 0 < Nat.pow 2 64 := by decide
  rw [← Nat.cast_zero, takenForStep_natCast_iff]
  omega

theorem takenForStep_neg_iff {n k : ℕ} (positive : 0 < n) : TakenForStep k (-n) ↔ k = 0 := by
  have below : -(n : ℚ) ≠ 4 * k := by
    intro same
    have sum : 4 * k + n = 0 := by exact_mod_cast eq_neg_iff_add_eq_zero.1 same.symm
    omega
  constructor
  · rintro (⟨same, _⟩ | ⟨zero, _⟩)
    · contradiction
    · exact zero
  · intro zero
    exact Or.inr ⟨zero, n, positive, rfl⟩

theorem exists_int_of_takenForStep {k : ℕ} {q : ℚ} (taken : TakenForStep k q) :
    ∃ z : ℤ, q = z := by
  obtain ⟨rfl, _⟩ | ⟨_, n, _, rfl⟩ := taken
  · exact ⟨4 * k, by push_cast; rfl⟩
  · exact ⟨-n, by push_cast; rfl⟩

theorem step?_eq_natText_iff {k : ℕ} :
    step? x = some (natText k) ↔ ∃ q, x.rational? = some q ∧ TakenForStep k q := by
  -- A number that is not whole has no step, and only its value says whether it is whole.
  by_cases whole : x.isWhole = true
  · obtain ⟨z, value⟩ := isWhole_iff.1 whole
    cases z with
    | ofNat n =>
      have value : x.rational? = some (n : ℚ) := value
      rw [step?_of_natCast value, value]
      simp only [Option.some.injEq, exists_eq_left', takenForStep_natCast_iff]
      split
      -- One pixel has a step of its own, which is no number.
      next one =>
        simp only [Option.some.injEq, pixel_ne_natText, false_iff]
        grind
      next notOne =>
        split
        next within =>
          rw [Option.some.injEq, natText_injective.eq_iff]
          grind
        next => grind
    -- A negative whole number is taken for step zero, whatever it is.
    | negSucc n =>
      have value : x.rational? = some (-((n + 1 : ℕ) : ℚ)) := by
        rw [value, Int.negSucc_eq]
        push_cast
        rfl
      rw [step?_of_neg (Nat.succ_pos n) value, value]
      simp only [Option.some.injEq, exists_eq_left', takenForStep_neg_iff (Nat.succ_pos n),
        natText_injective.eq_iff]
      exact eq_comm
  · rw [step?_of_not_isWhole (Bool.not_eq_true _ ▸ whole)]
    simp only [reduceCtorEq, false_iff, not_exists, not_and]
    intro q value taken
    obtain ⟨z, rfl⟩ := exists_int_of_takenForStep taken
    exact whole (isWhole_iff.2 ⟨z, value⟩)

end Steps

/-! ## Classes with a step -/

def stepClass (stem : Text) (negative : Bool) (k : ℕ) : Text :=
  minusText negative ++ stem ++ "-" ++ natText k

theorem minusText_injective : Function.Injective minusText := by
  intro negative negative' same
  cases negative <;> cases negative' <;> simp_all [minusText]

theorem isDigit_of_append_natText {s t : Text} {c : Char} {k : ℕ}
    (same : s ++ [c] = t ++ natText k) : c.isDigit = true := by
  have filled : natText k ≠ [] := Nat.toDigits_ne_nil
  have last := congrArg List.getLast? same
  rw [List.getLast?_concat, List.getLast?_append_of_ne_nil _ filled] at last
  exact isDigit_of_mem_natText (List.mem_of_getLast? last.symm)

theorem append_natText_inj {s t : Text} {k k' : ℕ}
    (same : s ++ "-" ++ natText k = t ++ "-" ++ natText k') : s = t ∧ k = k' := by
  -- Read from the end, a step has no hyphen before the one in front of it.
  have absent (n : ℕ) : '-' ∉ (natText n).reverse := by
    intro member
    exact absurd (isDigit_of_mem_natText (List.mem_reverse.1 member)) (by decide)
  have turned : (natText k).reverse ++ '-' :: s.reverse =
      (natText k').reverse ++ '-' :: t.reverse := by
    simpa using congrArg List.reverse same
  obtain ⟨step, stem⟩ := Text.append_cons_inj (absent k) (absent k') turned
  exact ⟨List.reverse_injective stem, natText_injective (List.reverse_injective step)⟩

theorem magnitudeClass_eq_stepClass_iff {stem magnitude : Text} {negative minus : Bool}
    {x : Binary64} {k : ℕ} :
    magnitudeClass stem negative magnitude x = stepClass stem minus k ↔
      (negative && !x.isZero) = minus ∧ step? x = some (natText k) := by
  rw [magnitudeClass_eq, stepClass]
  generalize (negative && !x.isZero) = sign
  cases found : step? x with
  | none =>
    -- Off the scale the class ends in a bracket, and the class of a step in a digit.
    simp only [reduceCtorEq, and_false, iff_false, Option.getD_none]
    intro same
    rw [← List.append_assoc, ← List.append_assoc] at same
    exact absurd (isDigit_of_append_natText same) (by decide)
  | some step =>
    rw [Option.getD_some, Option.some.injEq]
    constructor
    · intro same
      cases step?_cases found with
      | inl pixel =>
        have split : (↑"px" : Text) = ['p'] ++ ['x'] := by decide
        rw [pixel, split, ← List.append_assoc] at same
        exact absurd (isDigit_of_append_natText same) (by decide)
      | inr whole =>
        obtain ⟨k', rfl⟩ := whole
        obtain ⟨front, rfl⟩ := append_natText_inj same
        exact ⟨minusText_injective (List.append_cancel_right front), rfl⟩
    · rintro ⟨rfl, rfl⟩
      rfl

theorem spacingClass_eq_stepClass_iff {stem value : Text} {signed minus : Bool} {k : ℕ} :
    spacingClass stem signed value = some (stepClass stem minus k) ↔
      ∃ x, pixels? (splitSign value).2 = some x ∧ ((splitSign value).1 = true → signed = true) ∧
        ((splitSign value).1 && !x.isZero) = minus ∧ step? x = some (natText k) := by
  have noAuto : stepClass stem minus k ≠ stem ++ "-auto" := by
    intro same
    have split : (↑"-auto" : Text) = "-aut" ++ ['o'] := by decide
    rw [split, ← List.append_assoc] at same
    exact absurd (isDigit_of_append_natText same.symm) (by decide)
  rw [spacingClass_eq_some_iff]
  simp only [noAuto, and_false, false_or, eq_comm (a := stepClass stem minus k),
    magnitudeClass_eq_stepClass_iff]

/-! ## Lengths -/

/-- The length in pixels of a magnitude with a unit of the given size, if it has this unit. Its
number is the one of the format that is read. -/
def lengthIn? (unit : Text) (size : ℕ) (magnitude : Text) : Option ℚ :=
  (Text.dropEnding? unit magnitude).bind fun number =>
    (Binary64.parse? number).bind fun x => x.rational?.map (size * ·)

/-- The length of a magnitude in pixels: a plain zero, or a number with its unit. -/
def magnitudeLength? (magnitude : Text) : Option ℚ :=
  if magnitude = ['0'] then some 0
  else (lengthIn? "px" 1 magnitude).or (lengthIn? "rem" 16 magnitude)

/-- The length that a value denotes in pixels: that of its magnitude, negative if a minus stands in
front. -/
def length? (value : Text) : Option ℚ :=
  (magnitudeLength? (splitSign value).2).map (withSign (splitSign value).1)

/-- A length in pixels is that of its number, unless sixteen times the number of root font sizes
grows beyond the format. -/
theorem rational?_pixels?_iff {magnitude : Text} {q : ℚ} :
    (pixels? magnitude).bind Binary64.rational? = some q ↔
      magnitudeLength? magnitude = some q ∧ |q| < 2 ^ (1024 : ℤ) := by
  rw [pixels?, magnitudeLength?]
  split
  next zero =>
    have value : (Binary64.ofNat 0).rational? = some 0 := isZero_iff.1 rfl
    rw [Option.bind_some, value, Option.some.injEq]
    constructor
    · rintro rfl
      exact ⟨rfl, by rw [abs_zero]; positivity⟩
    · exact And.left
  next nonzero =>
    simp only [lengthIn?]
    cases pixels : Text.dropEnding? "px" magnitude with
    | some number =>
      -- What ends in `px` does not end in `rem`.
      have noRoots : Text.dropEnding? "rem" magnitude = none := by
        rw [Option.eq_none_iff_forall_ne_some]
        intro other roots
        rw [Text.dropEnding?_eq_some_iff] at pixels roots
        exact (unit_ends number other).2.2 (pixels.symm.trans roots)
      rw [noRoots]
      cases parsed : Binary64.parse? number with
      | none => simp [parsed]
      | some x =>
        have bounded := (isRounded_of_parse? parsed).abs_lt (q := q)
        simpa [parsed] using bounded
    | none =>
      cases Text.dropEnding? "rem" magnitude with
      | none => simp
      | some number =>
        cases parsed : Binary64.parse? number with
        | none => simp [parsed]
        | some y =>
          have multiplied := rational?_mul_sixteen (isRounded_of_parse? parsed) q
          simpa [parsed] using multiplied

theorem exists_of_splitSign {value : Text} (sign : (splitSign value).1 = true) :
    ∃ magnitude, value = '-' :: magnitude := by
  cases value with
  | nil => contradiction
  | cons c rest =>
    simp only [splitSign] at sign
    exact ⟨rest, by grind⟩

theorem readSign_of_splitSign {number unit : Text}
    (unsigned : (splitSign (number ++ unit)).1 = false) : (readSign number).1 = false := by
  cases number with
  | nil => rfl
  | cons c rest =>
    simp only [List.cons_append, splitSign] at unsigned
    simp only [readSign]
    grind

theorem lengthIn?_nonneg {unit magnitude : Text} {size : ℕ} {q : ℚ}
    (unsigned : (splitSign magnitude).1 = false) (denoted : lengthIn? unit size magnitude = some q) :
    0 ≤ q := by
  simp only [lengthIn?, Option.bind_eq_some_iff, Option.map_eq_some_iff] at denoted
  -- The sign that the number has is the one at the front of the magnitude.
  obtain ⟨number, dropped, x, parsed, r, value, rfl⟩ := denoted
  obtain rfl := Text.dropEnding?_eq_some_iff.1 dropped
  have rounded := isRounded_of_parse? parsed
  rw [readSign_of_splitSign unsigned] at rounded
  have nonneg := rounded.nonneg value
  positivity

theorem magnitudeLength?_nonneg {magnitude : Text} {q : ℚ}
    (unsigned : (splitSign magnitude).1 = false) (denoted : magnitudeLength? magnitude = some q) :
    0 ≤ q := by
  rw [magnitudeLength?] at denoted
  split at denoted
  next => exact (Option.some.inj denoted).le
  next =>
    cases Option.or_eq_some_iff.1 denoted with
    | inl pixels => exact lengthIn?_nonneg unsigned pixels
    | inr roots => exact lengthIn?_nonneg unsigned roots.2

theorem magnitudeLength?_ne_neg {magnitude : Text} {n : ℕ}
    (unsigned : (splitSign magnitude).1 = false) (positive : 0 < n) :
    magnitudeLength? magnitude ≠ some (-(n : ℚ)) := by
  intro denoted
  have zero : (n : ℚ) ≤ 0 := neg_nonneg.1 (magnitudeLength?_nonneg unsigned denoted)
  exact absurd positive (by exact_mod_cast not_lt.2 zero)

/-- A class is the one of a step exactly if the length of the magnitude is taken for this step; the
minus is shown unless the length is zero. -/
theorem spacingClass_eq_stepClass_iff_taken {stem value : Text} {signed minus : Bool} {k : ℕ} :
    spacingClass stem signed value = some (stepClass stem minus k) ↔
      ∃ q, (magnitudeLength? (splitSign value).2 = some q ∧ |q| < 2 ^ (1024 : ℤ)) ∧
        ((splitSign value).1 = true → signed = true) ∧
        ((splitSign value).1 && decide (q ≠ 0)) = minus ∧ TakenForStep k q := by
  have shown (x : Binary64) (q : ℚ) (value : x.rational? = some q) : (!x.isZero) = decide (q ≠ 0) := by
    rw [Bool.eq_iff_iff, Bool.not_eq_true', ← Bool.not_eq_true, isZero_iff, value]
    simp
  -- The bound on the length says that it is the value of a number, not of an infinite product.
  simp only [spacingClass_eq_stepClass_iff, step?_eq_natText_iff, ← rational?_pixels?_iff,
    Option.bind_eq_some_iff]
  constructor
  · rintro ⟨x, found, accepted, sign, q, value, taken⟩
    exact ⟨q, ⟨x, found, value⟩, accepted, shown x q value ▸ sign, taken⟩
  · rintro ⟨q, ⟨x, found, value⟩, accepted, sign, taken⟩
    exact ⟨x, found, accepted, shown x q value ▸ sign, q, value, taken⟩

theorem abs_lt_of_step {k : ℕ} {q : ℚ} (step : q = 4 * k) (word : 4 * k < Nat.pow 2 64) :
    |q| < 2 ^ (1024 : ℤ) := by
  rw [step, abs_of_nonneg (by positivity)]
  calc (4 * k : ℚ) < 2 ^ (64 : ℤ) := by exact_mod_cast word
    _ < 2 ^ (1024 : ℤ) := zpow_lt_zpow_right₀ one_lt_two (by decide)

section Values

variable {stem value magnitude : Text} {signed minus : Bool} {k : ℕ}

theorem stepClass_iff_of_unsigned (unsigned : (splitSign value).1 = false) :
    spacingClass stem signed value = some (stepClass stem minus k) ↔
      minus = false ∧ length? value = some (4 * k : ℚ) ∧ 4 * k < Nat.pow 2 64 := by
  have whole : (splitSign value).2 = value := by
    cases value with
    | nil => rfl
    | cons c rest =>
      simp only [splitSign] at unsigned ⊢
      grind
  have same : length? value = magnitudeLength? value := by
    rw [length?, whole, unsigned]
    exact congrFun Option.map_id _
  rw [spacingClass_eq_stepClass_iff_taken, unsigned, whole, same]
  constructor
  · rintro ⟨q, ⟨denoted, _⟩, _, rfl, ⟨rfl, word⟩ | ⟨_, n, positive, rfl⟩⟩
    · exact ⟨rfl, denoted, word⟩
    · exact absurd denoted (magnitudeLength?_ne_neg unsigned positive)
  · rintro ⟨rfl, denoted, word⟩
    exact ⟨4 * k, ⟨denoted, abs_lt_of_step rfl word⟩, by simp, rfl, Or.inl ⟨rfl, word⟩⟩

theorem length?_minus (q : ℚ) :
    length? ('-' :: magnitude) = some q ↔ magnitudeLength? magnitude = some (-q) := by
  simp [length?, splitSign, Option.map_eq_some_iff, neg_eq_iff_eq_neg]

theorem plain_stepClass_iff_of_minus :
    spacingClass stem signed ('-' :: magnitude) = some (stepClass stem false k) ↔
      signed = true ∧ k = 0 ∧ length? ('-' :: magnitude) = some 0 := by
  rw [spacingClass_eq_stepClass_iff_taken, length?_minus, neg_zero]
  simp only [splitSign, if_true, true_imp_iff, Bool.true_and, decide_eq_false_iff_not, not_not]
  constructor
  · rintro ⟨q, ⟨denoted, _⟩, rfl, rfl, taken⟩
    exact ⟨rfl, takenForStep_zero_iff.1 taken, denoted⟩
  · rintro ⟨rfl, zero, denoted⟩
    exact ⟨0, ⟨denoted, by rw [abs_zero]; positivity⟩, rfl, rfl, takenForStep_zero_iff.2 zero⟩

theorem minus_stepClass_iff_of_minus :
    spacingClass stem signed ('-' :: magnitude) = some (stepClass stem true k) ↔
      signed = true ∧
        ((length? ('-' :: magnitude) = some (-(4 * k) : ℚ) ∧ 0 < k ∧ 4 * k < Nat.pow 2 64) ∨
          (k = 0 ∧ "--".toList <+: '-' :: magnitude ∧
            ∃ n : ℕ, 0 < n ∧ (n : ℚ) < 2 ^ (1024 : ℤ) ∧
              length? ('-' :: magnitude) = some (n : ℚ))) := by
  simp only [spacingClass_eq_stepClass_iff_taken, length?_minus, neg_neg, splitSign, if_true,
    true_imp_iff, Bool.true_and, decide_eq_true_eq]
  constructor
  · rintro ⟨q, ⟨denoted, within⟩, rfl, nonzero, ⟨rfl, word⟩ | ⟨rfl, n, positive, rfl⟩⟩
    · have someSteps : k ≠ 0 := by
        rintro rfl
        simp at nonzero
      exact ⟨rfl, Or.inl ⟨denoted, Nat.pos_of_ne_zero someSteps, word⟩⟩
    · rw [abs_neg, Nat.abs_cast] at within
      refine ⟨rfl, Or.inr ⟨rfl, ?_, n, positive, within, denoted⟩⟩
      -- A magnitude with a negative number starts with a minus of its own.
      cases sign : (splitSign magnitude).1 with
      | true =>
        obtain ⟨rest, rfl⟩ := exists_of_splitSign sign
        exact ⟨rest, rfl⟩
      | false => exact absurd denoted (magnitudeLength?_ne_neg sign positive)
  · rintro ⟨rfl, ⟨denoted, someSteps, word⟩ | ⟨rfl, _, n, positive, within, denoted⟩⟩
    · have nonzero : (4 * k : ℚ) ≠ 0 := by positivity
      exact ⟨4 * k, ⟨denoted, abs_lt_of_step rfl word⟩, rfl, nonzero, Or.inl ⟨rfl, word⟩⟩
    · have nonzero : -(n : ℚ) ≠ 0 := by
        rw [neg_ne_zero]
        positivity
      exact ⟨-n, ⟨denoted, by rwa [abs_neg, Nat.abs_cast]⟩, rfl, nonzero,
        (takenForStep_neg_iff positive).2 rfl⟩

end Values

/-- A step without a minus is the one of the length that the value denotes. So is a step with a
minus, unless it is step zero: this one stands for the positive whole lengths that are written with
two minuses. -/
theorem scale_step_iff_length (stem value : Text) (signed : Bool) (k : ℕ) :
    (spacingClass stem signed value = some (stepClass stem false k) ↔
      length? value = some (4 * k : ℚ) ∧ 4 * k < Nat.pow 2 64 ∧
        ((splitSign value).1 = false ∨ (signed = true ∧ k = 0))) ∧
    (spacingClass stem signed value = some (stepClass stem true k) ↔
      (splitSign value).1 = true ∧ signed = true ∧
        ((length? value = some (-(4 * k) : ℚ) ∧ 0 < k ∧ 4 * k < Nat.pow 2 64) ∨
          (k = 0 ∧ "--".toList <+: value ∧
            ∃ n : ℕ, 0 < n ∧ (n : ℚ) < 2 ^ (1024 : ℤ) ∧ length? value = some (n : ℚ)))) := by
  cases sign : (splitSign value).1 with
  | false => simp [stepClass_iff_of_unsigned sign]
  | true =>
    obtain ⟨magnitude, rfl⟩ := exists_of_splitSign sign
    rw [plain_stepClass_iff_of_minus, minus_stepClass_iff_of_minus]
    simp only [reduceCtorEq, false_or, true_and, and_true]
    constructor
    · rintro ⟨rfl, rfl, denoted⟩
      exact ⟨by simpa using denoted, by decide, rfl, rfl⟩
    · rintro ⟨denoted, _, rfl, rfl⟩
      exact ⟨rfl, rfl, by simpa using denoted⟩

/-- The second minus of five pixels is read with the number, and the number is taken for zero. -/
theorem second_minus_on_step_zero :
    spacingClass "ml" true "--5px" = some "-ml-0" ∧ stepClass "ml" true 0 = "-ml-0" ∧
      length? "--5px" = some 5 := by
  have dropped : Text.dropEnding? "px" "-5px" = some ['-', '5'] := by decide
  have parsed : Binary64.parse? ['-', '5'] = some (.finite true (5 * Nat.pow 2 50) (-50)) := by
    decide +kernel
  have pixels : lengthIn? "px" 1 "-5px" = some (-5) := by
    rw [lengthIn?, dropped, Option.bind_some, parsed, Option.bind_some, Binary64.rational?]
    norm_num
  have denoted : magnitudeLength? "-5px" = some (-5) := by
    rw [magnitudeLength?, if_neg (by decide), pixels, Option.some_or]
  refine ⟨by decide +kernel, by decide, ?_⟩
  exact (length?_minus 5).2 denoted

end Snippet.Style
