import Snippet.Conversion.Run
import Snippet.Proofs.Number.DecimalLiteral
import Snippet.Proofs.Style.BoxSides

/-!
# The opacity scale

An opacity gets the class of its nearest whole percentage if this is a multiple of five. The literal is
rounded to the format when it is read and again when it is multiplied by one hundred, so a literal that
is within `2 ^ -45` of the middle between two percentages can get to the wrong side; with no more than
fifteen digits behind the point only the middle itself is that close.
-/

namespace Snippet.Style

open Number (Binary64 DecimalLiteral natText natText_injective)
open Text (IsWord)

/-! ## Percentages -/

section Percentages

open Number.Binary64 (RoundedAt ofNat finite rational? withSign_false isUnit_iff roundHalfUp_eq_iff)

variable {magnitude : ℚ} {x : Binary64} {place : ℤ}

theorem isUnit_of_le_one (rounded : RoundedAt magnitude x place) (small : magnitude ≤ 1) :
    x.isUnit = true := by
  obtain ⟨q, value, nonneg, bounded, _⟩ := rounded.exists_of_le (by decide) (by decide)
    (small.trans (zpow_zero 2).ge)
  exact isUnit_iff.2 ⟨q, value, nonneg, bounded.trans (zpow_zero 2).le⟩

theorem error_of_isUnit (rounded : RoundedAt magnitude x place) {q : ℚ} (value : x.rational? = some q)
    (bounded : q ≤ 1) : |q - magnitude| ≤ 1 / 2 ^ 53 := by
  have error := rounded.error q value
  have placed : place ≤ -52 := by
    cases rounded.reached with
    | inl least => omega
    | inr reached =>
      -- The last place is small beside the magnitude, which is therefore below two.
      have last : (2 : ℚ) ^ (place + 52) = 2 ^ place * 2 ^ 52 := by
        rw [zpow_add₀ two_ne_zero]
        norm_cast
      have low := (abs_le.1 error).1
      have below : (2 : ℚ) ^ (place + 52) < 2 ^ (1 : ℤ) := by
        rw [last] at reached ⊢
        linarith
      have := (zpow_lt_zpow_iff_right₀ (one_lt_two (α := ℚ))).1 below
      omega
  calc |q - magnitude| ≤ 2 ^ place / 2 := error
    _ ≤ 2 ^ (-52 : ℤ) / 2 := by
      gcongr
      exact one_le_two
    _ = 1 / 2 ^ 53 := by norm_num

/-- One hundred times what is read differs from the percentage that is written by `2 ^ -45` at most. -/
theorem exists_hundredfold (rounded : RoundedAt magnitude x place) (positive : x.IsRounded false)
    (unit : x.isUnit = true) :
    magnitude ≤ 1 + 1 / 2 ^ 53 ∧ ∃ z, (x.mul (ofNat 100)).rational? = some z ∧ 0 ≤ z ∧
      z ≤ 100 + 1 / 2 ^ 45 ∧ |z - 100 * magnitude| ≤ 1 / 2 ^ 45 := by
  obtain ⟨q, value, nonneg, bounded⟩ := isUnit_iff.1 unit
  have error := error_of_isUnit rounded value bounded
  have hundred : (ofNat 100).rational? = some 100 := by
    have number : ofNat 100 = finite false (25 * Nat.pow 2 48) (-46) := by decide
    rw [number, rational?, withSign_false]
    norm_num
  have sign : (ofNat 100).IsRounded false := Binary64.isRounded_ofRatio false 100 Nat.one_pos
  -- The second rounding is that of the product, on top of the one of the number itself.
  obtain ⟨place', product⟩ := Binary64.roundedAt_mul positive sign value hundred
  -- A percentage is below `2 ^ 7`, which bounds the error of the product.
  obtain ⟨z, value', nonneg', _, error'⟩ := product.exists_of_le (k := 7) (by decide) (by decide)
    (by norm_num; linarith)
  have power : (2 : ℚ) ^ (7 - 53 : ℤ) = 1 / 2 ^ 46 := by norm_num
  rw [power] at error'
  rw [abs_le] at error error'
  refine ⟨by linarith [error.1], z, value', nonneg', ?_, abs_le.2 ⟨?_, ?_⟩⟩
  · linarith [error'.2]
  · linarith [error.1, error'.1]
  · linarith [error.2, error'.2]

def percentage (x : Binary64) : ℕ :=
  (x.mul (ofNat 100)).roundHalfUp

theorem near_of_percentage_eq (rounded : RoundedAt magnitude x place) (positive : x.IsRounded false)
    (unit : x.isUnit = true) {percent : ℕ} (same : percentage x = percent) :
    percent ≤ 100 ∧ magnitude ≤ 1 + 1 / 2 ^ 53 ∧
      |100 * magnitude - percent| ≤ 1 / 2 + 1 / 2 ^ 45 := by
  obtain ⟨small, z, value, nonneg, bounded, error⟩ := exists_hundredfold rounded positive unit
  obtain ⟨low, high⟩ := (roundHalfUp_eq_iff value).1 same
  rw [abs_of_nonneg nonneg] at low high
  rw [abs_le] at error
  refine ⟨?_, small, abs_le.2 ⟨by linarith, by linarith⟩⟩
  have below : (percent : ℚ) < 101 := by linarith
  exact Nat.lt_succ_iff.1 (by exact_mod_cast below)

theorem percentage_eq_of_near (rounded : RoundedAt magnitude x place) (positive : x.IsRounded false)
    (small : magnitude ≤ 1) {percent : ℕ}
    (near : |100 * magnitude - percent| < 1 / 2 - 1 / 2 ^ 45) :
    x.isUnit = true ∧ percentage x = percent := by
  have unit := isUnit_of_le_one rounded small
  obtain ⟨_, z, value, nonneg, _, error⟩ := exists_hundredfold rounded positive unit
  rw [abs_le] at error
  rw [abs_lt] at near
  refine ⟨unit, (roundHalfUp_eq_iff value).2 ?_⟩
  rw [abs_of_nonneg nonneg]
  constructor <;> linarith

end Percentages

/-! ## Classes of decimal literals -/

def percentClass (percent : ℕ) : Text :=
  "opacity-" ++ natText percent

theorem percentClass_injective : Function.Injective percentClass :=
  fun _ _ same => natText_injective (List.append_cancel_left same)

theorem isSideValue_text (d : DecimalLiteral) : IsSideValue d.text where
  word := by
    refine ⟨d.text_ne_nil, fun c member => ?_⟩
    cases d.isPositional_text c member with
    | inl digit => exact Unicode.isBlank_of_isDigit digit
    | inr point =>
      rw [point]
      decide
  plain c member := by
    have other {separator : Char} (noDigit : separator.isDigit = false) (noPoint : separator ≠ '.') :
        c ≠ separator := fun same => d.isPositional_text.notMem noDigit noPoint (same ▸ member)
    simp [isSeparator, other]
  unmarked := by
    rw [← Bool.not_eq_true, Text.hasEnding, List.isSuffixOf_iff_suffix]
    intro ending
    exact d.isPositional_text.notMem (by decide) (by decide)
      (ending.subset (by decide : '!' ∈ priorityMarker))

theorem run_opacity (config : Config) (d : DecimalLiteral) :
    Conversion.cssTailwind.run config ("opacity: " ++ d.text) = .ok ((opacityClass d.text).getD []) := by
  have name : IsPropertyName "opacity" := ⟨by decide, by decide, by decide⟩
  have listed : Table.get? (Text.lowerAscii "opacity") utilities = some .opacity := rfl
  have classes : allClasses ("opacity: " ++ d.text) = (opacityClass d.text).toList := by
    have same := allClasses_colon name (isSideValue_text d).isPlainValue listed
    rwa [d.isPositional_text.lowerAscii_eq] at same
  rw [Conversion.run, toUtilityClasses, classList, classes]
  cases opacityClass d.text with
  | none => rfl
  | some name => simp [Text.join, List.eraseDups_cons]

theorem opacityClass_text (d : DecimalLiteral) :
    opacityClass d.text =
      if d.number.isUnit = true ∧ percentage d.number % 5 = 0 then
        some (percentClass (percentage d.number))
      else none := by
  rw [opacityClass, d.parse?_text, ite_and]
  rfl

theorem run_opacity_eq_iff (config : Config) (d : DecimalLiteral) :
    let output := Conversion.cssTailwind.run config ("opacity: " ++ d.text)
    (output = .ok [] ∨ ∃ percent, output = .ok (percentClass percent)) ∧
      ∀ percent, output = .ok (percentClass percent) ↔
        d.number.isUnit = true ∧ percentage d.number = percent ∧ 5 ∣ percent := by
  intro output
  have filled (percent : ℕ) : [] ≠ percentClass percent :=
    (List.append_ne_nil_of_left_ne_nil (by decide) _).symm
  simp only [output, run_opacity, opacityClass_text, Except.ok.injEq]
  split
  next shown =>
    refine ⟨Or.inr ⟨_, rfl⟩, fun percent => ?_⟩
    rw [Option.getD_some, percentClass_injective.eq_iff]
    constructor
    · rintro rfl
      exact ⟨shown.1, rfl, Nat.dvd_of_mod_eq_zero shown.2⟩
    · exact fun found => found.2.1
  next hidden =>
    refine ⟨Or.inl rfl, fun percent => iff_of_false (filled percent) ?_⟩
    rintro ⟨unit, rfl, multiple⟩
    exact hidden ⟨unit, Nat.mod_eq_zero_of_dvd multiple⟩

/-! ## Literals and their nearest percentages -/

section Short

variable {d : DecimalLiteral} (short : d.places ≤ 15)

include short

theorem exists_value_eq : ∃ n : ℕ, d.value = n / 10 ^ 15 := by
  obtain ⟨others, all⟩ := Nat.exists_eq_add_of_le short
  refine ⟨d.coefficient * 10 ^ others, ?_⟩
  rw [all, pow_add, DecimalLiteral.value, Nat.cast_mul, Nat.cast_pow, Nat.cast_ofNat,
    mul_div_mul_right _ _ (by positivity)]

theorem value_le_one (small : d.value ≤ 1 + 1 / 2 ^ 53) : d.value ≤ 1 := by
  obtain ⟨n, value⟩ := exists_value_eq short
  rw [value] at small ⊢
  -- Values are whole multiples of `10 ^ -15`, and the margin is smaller than one of them.
  have below : (n : ℚ) < 10 ^ 15 + 1 := by linarith
  have whole : n ≤ 10 ^ 15 := Nat.lt_succ_iff.1 (by exact_mod_cast below)
  exact (div_le_one (by positivity)).2 (by exact_mod_cast whole)

/-- With few digits behind the point a literal keeps away from the middle of two percentages, unless it
is the middle. -/
theorem exists_distance_eq (percent : ℕ) : ∃ n : ℕ, |100 * d.value - percent| = n / 10 ^ 13 := by
  obtain ⟨n, value⟩ := exists_value_eq short
  refine ⟨((n : ℤ) - percent * 10 ^ 13).natAbs, ?_⟩
  have scaled : 100 * d.value - percent = ((n : ℤ) - percent * 10 ^ 13 : ℤ) / 10 ^ 13 := by
    rw [value]
    push_cast
    ring
  rw [scaled, abs_div, Nat.cast_natAbs, Int.cast_abs, abs_of_pos (by positivity : (0 : ℚ) < 10 ^ 13)]

theorem lt_half_of_le_margin {percent : ℕ} (apart : |100 * d.value - percent| ≠ 1 / 2)
    (near : |100 * d.value - percent| ≤ 1 / 2 + 1 / 2 ^ 45) : |100 * d.value - percent| < 1 / 2 := by
  obtain ⟨n, distance⟩ := exists_distance_eq short percent
  rw [distance] at near apart ⊢
  -- Distances are whole multiples of `10 ^ -13`, more than the margin of `2 ^ -45`, so none but
  -- the middle lies within it.
  have below : (n : ℚ) < 5 * 10 ^ 12 + 1 := by linarith
  have whole : n ≤ 5 * 10 ^ 12 := Nat.lt_succ_iff.1 (by exact_mod_cast below)
  refine lt_of_le_of_ne ?_ apart
  have whole' : (n : ℚ) ≤ 5 * 10 ^ 12 := by exact_mod_cast whole
  linarith

theorem lt_margin_of_lt_half {percent : ℕ} (near : |100 * d.value - percent| < 1 / 2) :
    |100 * d.value - percent| < 1 / 2 - 1 / 2 ^ 45 := by
  obtain ⟨n, distance⟩ := exists_distance_eq short percent
  rw [distance] at near ⊢
  have below : (n : ℚ) < 5 * 10 ^ 12 := by linarith
  have whole : n + 1 ≤ 5 * 10 ^ 12 := by exact_mod_cast below
  have whole' : (n : ℚ) + 1 ≤ 5 * 10 ^ 12 := by exact_mod_cast whole
  linarith

end Short

/-- An opacity has no class, or the class of a multiple of five that is its nearest whole percentage up
to rounding. Every opacity that is nearest to such a percentage by more than this has its class. A
literal with at most fifteen digits behind the point that is not the middle between two percentages has
the class of its nearest one exactly. -/
theorem opacity_class_of_nearest_percentage (config : Config) (d : DecimalLiteral) :
    let output := Conversion.cssTailwind.run config ("opacity: " ++ d.text)
    (output = .ok [] ∨ ∃ percent, output = .ok (percentClass percent)) ∧
      ∀ percent,
        (output = .ok (percentClass percent) →
          5 ∣ percent ∧ percent ≤ 100 ∧ d.value ≤ 1 + 1 / 2 ^ 53 ∧
            |100 * d.value - percent| ≤ 1 / 2 + 1 / 2 ^ 45) ∧
        (5 ∣ percent → d.value ≤ 1 → |100 * d.value - percent| < 1 / 2 - 1 / 2 ^ 45 →
          output = .ok (percentClass percent)) ∧
        (d.places ≤ 15 → |100 * d.value - percent| ≠ 1 / 2 →
          (output = .ok (percentClass percent) ↔
            5 ∣ percent ∧ d.value ≤ 1 ∧ |100 * d.value - percent| < 1 / 2)) := by
  intro output
  obtain ⟨place, rounded⟩ := d.exists_roundedAt_number
  obtain ⟨cases, shown⟩ := run_opacity_eq_iff config d
  refine ⟨cases, fun percent => ?_⟩
  have only (found : output = .ok (percentClass percent)) :
      5 ∣ percent ∧ percent ≤ 100 ∧ d.value ≤ 1 + 1 / 2 ^ 53 ∧
        |100 * d.value - percent| ≤ 1 / 2 + 1 / 2 ^ 45 := by
    obtain ⟨unit, same, multiple⟩ := (shown percent).1 found
    exact ⟨multiple, near_of_percentage_eq rounded d.isRounded_number unit same⟩
  have every (multiple : 5 ∣ percent) (small : d.value ≤ 1)
      (near : |100 * d.value - percent| < 1 / 2 - 1 / 2 ^ 45) :
      output = .ok (percentClass percent) := by
    obtain ⟨unit, same⟩ := percentage_eq_of_near rounded d.isRounded_number small near
    exact (shown percent).2 ⟨unit, same, multiple⟩
  refine ⟨only, every, fun short apart => ⟨fun found => ?_, fun ⟨multiple, small, near⟩ => ?_⟩⟩
  · obtain ⟨multiple, _, small, near⟩ := only found
    exact ⟨multiple, value_le_one short small, lt_half_of_le_margin short apart near⟩
  · exact every multiple small (lt_margin_of_lt_half short near)

/-- A literal a hundredth of a percent below ninety-five percent, with needless digits. -/
theorem opacity_below_scale :
    let d : DecimalLiteral := ⟨"00", some "94990", by decide, by decide⟩
    let output := Conversion.cssTailwind.run {} ("opacity: " ++ d.text)
    d.value = 9499 / 10 ^ 4 ∧ d.places ≤ 15 ∧ output = .ok (percentClass 95) ∧
      percentClass 95 = "opacity-95" ∧ output ≠ .ok (percentClass 100) := by
  intro d output
  have coefficient : d.coefficient = 94990 := by decide
  have places : d.places = 5 := by decide
  have value : d.value = 9499 / 10 ^ 4 := by
    rw [DecimalLiteral.value, coefficient, places]
    norm_num
  have near : |100 * d.value - (95 : ℕ)| < 1 / 2 - 1 / 2 ^ 45 := by
    rw [value]
    norm_num [abs_lt]
  have distance : |100 * d.value - (100 : ℕ)| = 501 / 100 := by
    rw [value]
    norm_num [abs_of_neg]
  have apart : |100 * d.value - (100 : ℕ)| ≠ 1 / 2 := by
    rw [distance]
    norm_num
  have far : ¬ |100 * d.value - (100 : ℕ)| < 1 / 2 := by
    rw [distance]
    norm_num
  have small : d.value ≤ 1 := by
    rw [value]
    norm_num
  obtain ⟨_, percentages⟩ := opacity_class_of_nearest_percentage {} d
  have short : d.places ≤ 15 := by omega
  exact ⟨value, short, (percentages 95).2.1 (by decide) small near, by decide,
    fun found => far (((percentages 100).2.2 short apart).1 found).2.2⟩

/-- A literal that is not on the scale has the class of the percentage next to it. -/
theorem opacity_off_scale_has_class :
    let d : DecimalLiteral := ⟨"0", some "501", by decide, by decide⟩
    d.text = "0.501" ∧ Conversion.cssTailwind.run {} "opacity: 0.501" = .ok "opacity-50" ∧
      d.value ≠ 50 / 100 := by
  intro d
  have coefficient : d.coefficient = 501 := by decide
  have places : d.places = 3 := by decide
  have shown : toUtilityClasses "opacity: 0.501" = "opacity-50" := by decide +kernel
  refine ⟨rfl, congrArg Except.ok shown, ?_⟩
  rw [DecimalLiteral.value, coefficient, places]
  norm_num

end Snippet.Style
