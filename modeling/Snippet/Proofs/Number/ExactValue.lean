import Mathlib.Algebra.Order.Field.Power
import Mathlib.Algebra.Order.Floor.Semifield
import Mathlib.Data.Int.Log
import Mathlib.Data.Rat.Floor
import Mathlib.Tactic.FieldSimp
import Mathlib.Tactic.GCongr
import Mathlib.Tactic.Linarith
import Mathlib.Tactic.Positivity
import Mathlib.Tactic.Ring
import Snippet.Number.Binary64

/-!
# Exact values of binary64 numbers

A finite number stands for a rational number. What a test on numbers answers depends on this value
alone, and a quotient that the format can represent is not changed by rounding: a natural number up
to `2 ^ 53` is kept, and so is a number that is multiplied by a power of two, unless it grows beyond
the format.
-/

namespace Snippet.Number

namespace Binary64

/-! ## Values -/

def withSign (negative : Bool) (magnitude : ℚ) : ℚ :=
  if negative then -magnitude else magnitude

@[simp]
theorem withSign_false (magnitude : ℚ) : withSign false magnitude = magnitude :=
  rfl

@[simp]
theorem withSign_true (magnitude : ℚ) : withSign true magnitude = -magnitude :=
  rfl

theorem withSign_mul (negative : Bool) (a b : ℚ) :
    withSign negative (a * b) = a * withSign negative b := by
  cases negative <;> simp [withSign]

theorem abs_withSign (negative : Bool) {magnitude : ℚ} (nonneg : 0 ≤ magnitude) :
    |withSign negative magnitude| = magnitude := by
  cases negative <;> simp [withSign, abs_of_nonneg nonneg]

def rational? : Binary64 → Option ℚ
  | finite negative mantissa exponent => some (withSign negative (mantissa * 2 ^ exponent))
  | _ => none

theorem pow_toNat (exponent : ℤ) :
    ((Nat.pow 2 exponent.toNat : ℕ) : ℚ) / (Nat.pow 2 (-exponent).toNat : ℕ) = 2 ^ exponent := by
  simp only [Nat.pow_eq, Nat.cast_pow, Nat.cast_ofNat]
  cases Int.le_total 0 exponent with
  | inl up =>
    have down : (-exponent).toNat = 0 := by omega
    rw [down, pow_zero, div_one, ← zpow_natCast, Int.toNat_of_nonneg up]
  | inr down =>
    have up : exponent.toNat = 0 := by omega
    rw [up, pow_zero, ← zpow_natCast, Int.toNat_of_nonneg (by omega), one_div, zpow_neg, inv_inv]

theorem ratio_pos (mantissa : ℕ) (exponent : ℤ) : 0 < (ratio mantissa exponent).2 :=
  Nat.pow_pos (by decide)

theorem ratio_eq (mantissa : ℕ) (exponent : ℤ) :
    ((ratio mantissa exponent).1 : ℚ) / (ratio mantissa exponent).2 = mantissa * 2 ^ exponent := by
  rw [← pow_toNat, ratio, Nat.cast_mul, mul_div_assoc]

theorem rational?_finite (negative : Bool) (mantissa : ℕ) (exponent : ℤ) :
    rational? (finite negative mantissa exponent) =
      some (withSign negative ((ratio mantissa exponent).1 / (ratio mantissa exponent).2)) := by
  rw [rational?, ratio_eq]

/-! ## Rounding of exact quotients -/

section Rounding

variable {num den : ℕ}

/-- The logarithm is guessed from the lengths of both numbers, and the guess is one too high at
most. -/
theorem floorLog_eq_log (numPos : 0 < num) (denPos : 0 < den) :
    floorLog num den = Int.log 2 ((num : ℚ) / den) := by
  have numLow : (2 : ℚ) ^ (num.log2 : ℤ) ≤ num := by
    exact_mod_cast Nat.log2_self_le numPos.ne'
  have numHigh : (num : ℚ) < 2 ^ ((num.log2 : ℤ) + 1) := by
    exact_mod_cast Nat.lt_log2_self (n := num)
  have denLow : (2 : ℚ) ^ (den.log2 : ℤ) ≤ den := by
    exact_mod_cast Nat.log2_self_le denPos.ne'
  have denHigh : (den : ℚ) < 2 ^ ((den.log2 : ℤ) + 1) := by
    exact_mod_cast Nat.lt_log2_self (n := den)
  have denQ : (0 : ℚ) < den := by exact_mod_cast denPos
  have positive : (0 : ℚ) < num / den := by positivity
  rw [floorLog]
  generalize guessed : (num.log2 : ℤ) - den.log2 = guess
  have below : (2 : ℚ) ^ (guess - 1) ≤ num / den := by
    rw [le_div_iff₀ denQ]
    calc (2 : ℚ) ^ (guess - 1) * den ≤ 2 ^ (guess - 1) * 2 ^ ((den.log2 : ℤ) + 1) := by gcongr
      _ = 2 ^ (num.log2 : ℤ) := by
        rw [← zpow_add₀ two_ne_zero]
        congr 1
        omega
      _ ≤ num := numLow
  have above : (num : ℚ) / den < 2 ^ (guess + 1) := by
    rw [div_lt_iff₀ denQ]
    calc (num : ℚ) < 2 ^ ((num.log2 : ℤ) + 1) := numHigh
      _ = 2 ^ (guess + 1) * 2 ^ (den.log2 : ℤ) := by
        rw [← zpow_add₀ two_ne_zero]
        congr 1
        omega
      _ ≤ 2 ^ (guess + 1) * den := by gcongr
  have test : den * Nat.pow 2 guess.toNat ≤ num * Nat.pow 2 (-guess).toNat ↔
      (2 : ℚ) ^ guess ≤ num / den := by
    have scale : (0 : ℚ) < (Nat.pow 2 (-guess).toNat : ℕ) := by
      exact_mod_cast Nat.pow_pos (by decide)
    rw [← pow_toNat, div_le_div_iff₀ scale denQ, mul_comm den]
    norm_cast
  -- The quotient lies between the powers around the guess, so one comparison settles the logarithm.
  have atLeast := (Int.zpow_le_iff_le_log (by decide : 1 < 2) positive).1 below
  have lessThan := (Int.lt_zpow_iff_log_lt (by decide : 1 < 2) positive).1 above
  simp only [test]
  split
  next reached =>
    have := (Int.zpow_le_iff_le_log (by decide : 1 < 2) positive).1 reached
    omega
  next missed =>
    have := (Int.lt_zpow_iff_log_lt (by decide : 1 < 2) positive).1 (not_le.1 missed)
    omega

theorem lastPlace_spec (numPos : 0 < num) (denPos : 0 < den) :
    -1074 ≤ lastPlace num den ∧ (num : ℚ) / den < 2 ^ (lastPlace num den + 53) ∧
      (lastPlace num den = -1074 ∨ (2 : ℚ) ^ (lastPlace num den + 52) ≤ num / den) := by
  have positive : (0 : ℚ) < num / den := by positivity
  have low := Int.zpow_log_le_self (by decide : 1 < 2) positive
  have high := Int.lt_zpow_succ_log_self (by decide : 1 < 2) ((num : ℚ) / den)
  rw [lastPlace, floorLog_eq_log numPos denPos]
  generalize Int.log 2 ((num : ℚ) / den) = log at low high
  refine ⟨le_max_left _ _, high.trans_le ?_, ?_⟩
  · exact zpow_le_zpow_right₀ one_le_two (by omega)
  · cases Int.le_total (log - 52) (-1074) with
    | inl small => exact Or.inl (max_eq_left small)
    | inr reached =>
      right
      rw [max_eq_right reached, sub_add_cancel]
      exact low

/-- A magnitude of which the format has all binary digits, however large it is. -/
def Representable (magnitude : ℚ) : Prop :=
  ∃ mantissa : ℕ, ∃ exponent : ℤ, mantissa < Nat.pow 2 53 ∧ -1074 ≤ exponent ∧
    magnitude = mantissa * 2 ^ exponent

/-- The last place of the format is not beyond the last digit of a magnitude that it represents. -/
theorem Representable.exists_mantissa (numPos : 0 < num) (denPos : 0 < den)
    (represented : Representable (num / den)) :
    ∃ mantissa : ℕ, mantissa < Nat.pow 2 53 ∧
      (num : ℚ) / den = mantissa * 2 ^ lastPlace num den := by
  obtain ⟨mantissa, exponent, small, bounded, same⟩ := represented
  obtain ⟨_, high, low⟩ := lastPlace_spec numPos denPos
  -- A last place beyond the exponent would need more digits than the mantissa has.
  have place : lastPlace num den ≤ exponent := by
    cases low with
    | inl least => omega
    | inr reached =>
      by_contra beyond
      have larger : (2 : ℚ) ^ (lastPlace num den + 52) < 2 ^ (53 + exponent) := by
        calc (2 : ℚ) ^ (lastPlace num den + 52) ≤ mantissa * 2 ^ exponent := same ▸ reached
          _ < 2 ^ (53 : ℤ) * 2 ^ exponent := by
            gcongr
            exact_mod_cast small
          _ = 2 ^ (53 + exponent) := (zpow_add₀ two_ne_zero _ _).symm
      have := (zpow_lt_zpow_iff_right₀ (one_lt_two (α := ℚ))).1 larger
      omega
  obtain ⟨shift, rfl⟩ := Int.le.dest place
  have moved : (num : ℚ) / den = (mantissa * 2 ^ shift : ℕ) * 2 ^ lastPlace num den := by
    rw [same, zpow_add₀ two_ne_zero, zpow_natCast]
    push_cast
    ring
  refine ⟨mantissa * 2 ^ shift, ?_, moved⟩
  rw [moved, add_comm, zpow_add₀ two_ne_zero] at high
  have positive : (0 : ℚ) < 2 ^ lastPlace num den := by positivity
  exact_mod_cast lt_of_mul_lt_mul_right high positive.le

theorem scale_pos (denPos : 0 < den) (place : ℤ) : 0 < den * Nat.pow 2 place.toNat :=
  Nat.mul_pos denPos (Nat.pow_pos (by decide))

/-- The quotient that is rounded is the given one, counted in the last place. -/
theorem scaled_div (num : ℕ) (denPos : 0 < den) (place : ℤ) :
    ((num * Nat.pow 2 (-place).toNat : ℕ) : ℚ) / (den * Nat.pow 2 place.toNat : ℕ) =
      num / den / 2 ^ place := by
  have base : (den : ℚ) ≠ 0 := by exact_mod_cast denPos.ne'
  have up : ((Nat.pow 2 (-place).toNat : ℕ) : ℚ) ≠ 0 := by
    exact_mod_cast (Nat.pow_pos (by decide)).ne'
  rw [← pow_toNat, Nat.cast_mul, Nat.cast_mul]
  field_simp

theorem lastPlace_le_iff (numPos : 0 < num) (denPos : 0 < den) :
    lastPlace num den ≤ 971 ↔ (num : ℚ) / den < 2 ^ (1024 : ℤ) := by
  obtain ⟨_, high, low⟩ := lastPlace_spec numPos denPos
  constructor
  · intro within
    exact high.trans_le (zpow_le_zpow_right₀ one_le_two (by omega))
  · intro below
    by_contra beyond
    have reached := low.resolve_left (by omega)
    have smaller := (zpow_lt_zpow_iff_right₀ (one_lt_two (α := ℚ))).1 (reached.trans_lt below)
    omega

/-- A quotient that the format represents is not changed by rounding, and becomes infinite only
beyond the format. -/
theorem rational?_ofRatio (negative : Bool) (denPos : 0 < den)
    (represented : Representable (num / den)) :
    (ofRatio negative num den).rational? =
      if (num : ℚ) / den < 2 ^ (1024 : ℤ) then some (withSign negative (num / den)) else none := by
  rw [ofRatio]
  split
  next zero =>
    simp [rational?, withSign, zero]
  next nonzero =>
    have numPos := Nat.pos_of_ne_zero nonzero
    obtain ⟨mantissa, small, value⟩ := represented.exists_mantissa numPos denPos
    have limit := lastPlace_le_iff numPos denPos
    generalize lastPlace num den = place at value limit
    have scale := scale_pos denPos place
    have exact : num * Nat.pow 2 (-place).toNat = mantissa * (den * Nat.pow 2 place.toNat) := by
      have base : ((den * Nat.pow 2 place.toNat : ℕ) : ℚ) ≠ 0 := by exact_mod_cast scale.ne'
      have quotient := scaled_div num denPos place
      rw [value, mul_div_cancel_right₀ _ (by positivity), div_eq_iff base] at quotient
      exact_mod_cast quotient
    dsimp only
    rw [exact, roundDiv_mul scale, normalize]
    simp only [small.ne, if_false, ← limit]
    split
    next => rw [rational?, value]
    next => rfl

theorem roundDiv_le (num den : ℕ) : roundDiv num den ≤ num / den + 1 := by
  simp only [roundDiv]
  grind

/-- The quotient is below `2 ^ 53` in its last place, so rounding reaches this at most. -/
theorem mantissa_le (numPos : 0 < num) (denPos : 0 < den) :
    roundDiv (num * Nat.pow 2 (-lastPlace num den).toNat)
      (den * Nat.pow 2 (lastPlace num den).toNat) ≤ Nat.pow 2 53 := by
  obtain ⟨_, high, _⟩ := lastPlace_spec numPos denPos
  generalize lastPlace num den = place at high
  have scale := scale_pos denPos place
  have below : num * Nat.pow 2 (-place).toNat < Nat.pow 2 53 * (den * Nat.pow 2 place.toNat) := by
    have base : (0 : ℚ) < (den * Nat.pow 2 place.toNat : ℕ) := by exact_mod_cast scale
    rw [add_comm, zpow_add₀ two_ne_zero, ← div_lt_iff₀ (by positivity), ← scaled_div num denPos,
      div_lt_iff₀ base] at high
    exact_mod_cast high
  have quotient := (Nat.div_lt_iff_lt_mul scale).2 below
  have rounded := roundDiv_le (num * Nat.pow 2 (-place).toNat) (den * Nat.pow 2 place.toNat)
  omega

end Rounding

/-! ## Numbers of the format -/

/-- What rounding a quotient with a sign leads to: a finite number has this sign, at most 53 binary
digits and no place outside of `2 ^ -1074` to `2 ^ 971`. -/
def IsRounded (negative : Bool) : Binary64 → Prop
  | finite sign mantissa exponent =>
    sign = negative ∧ mantissa < Nat.pow 2 53 ∧ -1074 ≤ exponent ∧ exponent ≤ 971
  | _ => True

theorem isRounded_zero (negative : Bool) : IsRounded negative (finite negative 0 (-1074)) :=
  ⟨rfl, by decide, by decide, by decide⟩

theorem isRounded_normalize (negative : Bool) {mantissa : ℕ} {exponent : ℤ}
    (bounded : mantissa ≤ Nat.pow 2 53) (least : -1074 ≤ exponent) :
    IsRounded negative (normalize negative mantissa exponent) := by
  by_cases grown : mantissa = Nat.pow 2 53
  · simp only [normalize, grown, if_true]
    split
    next within => exact ⟨rfl, by decide, by omega, within⟩
    next => trivial
  · simp only [normalize, grown, if_false]
    split
    next within => exact ⟨rfl, by omega, least, within⟩
    next => trivial

theorem isRounded_ofRatio (negative : Bool) (num : ℕ) {den : ℕ} (denPos : 0 < den) :
    IsRounded negative (ofRatio negative num den) := by
  rw [ofRatio]
  split
  next => exact isRounded_zero negative
  next nonzero =>
    have numPos := Nat.pos_of_ne_zero nonzero
    exact isRounded_normalize negative (mantissa_le numPos denPos) (lastPlace_spec numPos denPos).1

namespace IsRounded

variable {x : Binary64} {q : ℚ}

theorem nonneg (rounded : IsRounded false x) (value : x.rational? = some q) : 0 ≤ q := by
  cases x with
  | finite negative mantissa exponent =>
    obtain ⟨rfl, _⟩ := rounded
    obtain rfl := Option.some.inj value
    rw [withSign_false]
    positivity
  | infinite negative => contradiction
  | nan => contradiction

theorem abs_lt {negative : Bool} (rounded : IsRounded negative x) (value : x.rational? = some q) :
    |q| < 2 ^ (1024 : ℤ) := by
  cases x with
  | finite sign mantissa exponent =>
    obtain ⟨_, small, _, greatest⟩ := rounded
    obtain rfl := Option.some.inj value
    rw [abs_withSign sign (by positivity)]
    calc (mantissa : ℚ) * 2 ^ exponent < 2 ^ (53 : ℤ) * 2 ^ exponent := by
          gcongr
          exact_mod_cast small
      _ = 2 ^ (53 + exponent) := (zpow_add₀ two_ne_zero _ _).symm
      _ ≤ 2 ^ (1024 : ℤ) := zpow_le_zpow_right₀ one_le_two (by omega)
  | infinite negative => contradiction
  | nan => contradiction

end IsRounded

theorem rational?_mul_sixteen {negative : Bool} {x : Binary64} (rounded : x.IsRounded negative)
    (product : ℚ) :
    (x.mul (.ofNat 16)).rational? = some product ↔
      x.rational?.map (16 * ·) = some product ∧ |product| < 2 ^ (1024 : ℤ) := by
  have sixteen : ofNat 16 = finite false (Nat.pow 2 52) (-48) := by decide
  rw [sixteen]
  cases x with
  | finite sign mantissa exponent =>
    obtain ⟨_, small, least, _⟩ := rounded
    have den : 0 < (ratio mantissa exponent).2 * (ratio (Nat.pow 2 52) (-48)).2 :=
      Nat.mul_pos (ratio_pos _ _) (ratio_pos _ _)
    have value : (((ratio mantissa exponent).1 * (ratio (Nat.pow 2 52) (-48)).1 : ℕ) : ℚ) /
        ((ratio mantissa exponent).2 * (ratio (Nat.pow 2 52) (-48)).2 : ℕ) =
          16 * (mantissa * 2 ^ exponent) := by
      rw [Nat.cast_mul, Nat.cast_mul, mul_div_mul_comm, ratio_eq, ratio_eq, mul_comm]
      congr 1
      norm_num
    -- Sixteen moves the exponent by four and leaves the digits alone.
    have represented : Representable (16 * (mantissa * 2 ^ exponent)) := by
      refine ⟨mantissa, 4 + exponent, small, by omega, ?_⟩
      rw [zpow_add₀ two_ne_zero]
      ring
    have multiplied : mul (finite sign mantissa exponent) (finite false (Nat.pow 2 52) (-48)) =
        ofRatio sign ((ratio mantissa exponent).1 * (ratio (Nat.pow 2 52) (-48)).1)
          ((ratio mantissa exponent).2 * (ratio (Nat.pow 2 52) (-48)).2) := by
      simp [mul]
    have magnitude := abs_withSign sign (by positivity : (0 : ℚ) ≤ 16 * (mantissa * 2 ^ exponent))
    rw [multiplied, rational?_ofRatio sign den (value ▸ represented), value]
    simp only [rational?, Option.map_some, Option.some.injEq, Option.ite_none_right_eq_some]
    rw [← withSign_mul]
    constructor
    · rintro ⟨within, rfl⟩
      exact ⟨rfl, by rwa [magnitude]⟩
    · rintro ⟨rfl, within⟩
      exact ⟨by rwa [magnitude] at within, rfl⟩
  | infinite sign =>
    have nonzero : Nat.pow 2 52 ≠ 0 := by decide
    simp [mul, rational?, nonzero]
  | nan => simp [mul, rational?]

/-! ## Tests -/

section Tests

variable {x : Binary64}

theorem isZero_iff : x.isZero = true ↔ x.rational? = some 0 := by
  cases x with
  | finite negative mantissa exponent =>
    have power : (2 : ℚ) ^ exponent ≠ 0 := by positivity
    cases negative <;> simp [isZero, rational?, power]
  | infinite negative => simp [isZero, rational?]
  | nan => simp [isZero, rational?]

theorem natCast_div_eq_iff {num den n : ℕ} (denPos : 0 < den) :
    (num : ℚ) / den = n ↔ num = n * den := by
  have base : (den : ℚ) ≠ 0 := by exact_mod_cast denPos.ne'
  rw [div_eq_iff base]
  norm_cast

theorem equals_iff {n : ℕ} (positive : 0 < n) : x.equals n = true ↔ x.rational? = some (n : ℚ) := by
  cases x with
  | finite negative mantissa exponent =>
    rw [rational?_finite]
    cases negative with
    | false =>
      rw [withSign_false, Option.some.injEq, natCast_div_eq_iff (ratio_pos mantissa exponent)]
      simp [equals]
    | true =>
      have below : -(((ratio mantissa exponent).1 : ℚ) / (ratio mantissa exponent).2) ≤ 0 := by
        rw [neg_nonpos]
        positivity
      have above : (0 : ℚ) < n := by exact_mod_cast positive
      simpa [equals] using (below.trans_lt above).ne
  | infinite negative => simp [equals, rational?]
  | nan => simp [equals, rational?]

theorem isWhole_iff : x.isWhole = true ↔ ∃ z : ℤ, x.rational? = some (z : ℚ) := by
  cases x with
  | finite negative mantissa exponent =>
    rw [rational?_finite]
    simp only [isWhole, decide_eq_true_eq, Option.some.injEq]
    rw [← Nat.dvd_iff_mod_eq_zero]
    have base : ((ratio mantissa exponent).2 : ℚ) ≠ 0 := by
      exact_mod_cast (ratio_pos mantissa exponent).ne'
    generalize (ratio mantissa exponent).1 = num
    generalize (ratio mantissa exponent).2 = den at base
    constructor
    · rintro ⟨quotient, rfl⟩
      cases negative with
      | false => exact ⟨quotient, by simp [base]⟩
      | true => exact ⟨-quotient, by simp [base]⟩
    · rintro ⟨z, whole⟩
      -- The sign makes no difference to what divides a number.
      have multiple : ∃ factor : ℤ, (num : ℚ) / den = factor := by
        cases negative with
        | false => exact ⟨z, whole⟩
        | true => exact ⟨-z, by rw [Int.cast_neg, ← whole, withSign_true, neg_neg]⟩
      obtain ⟨factor, same⟩ := multiple
      rw [div_eq_iff base] at same
      have product : (num : ℤ) = factor * den := by exact_mod_cast same
      exact Int.natCast_dvd_natCast.1 (product ▸ dvd_mul_left _ _)
  | infinite negative => simp [isWhole, rational?]
  | nan => simp [isWhole, rational?]

theorem toWord_of_nonpos {q : ℚ} (value : x.rational? = some q) (nonpos : q ≤ 0) : x.toWord = 0 := by
  cases x with
  | finite negative mantissa exponent =>
    cases negative with
    | false =>
      obtain rfl := Option.some.inj value
      have nonneg : (0 : ℚ) ≤ mantissa * 2 ^ exponent := by positivity
      have zero : mantissa = 0 := by
        have power : (2 : ℚ) ^ exponent ≠ 0 := by positivity
        simpa [power] using le_antisymm nonpos nonneg
      simp [toWord, ratio, zero]
    | true => rfl
  | infinite negative => contradiction
  | nan => contradiction

theorem toWord_of_natCast {n : ℕ} (value : x.rational? = some (n : ℚ)) :
    x.toWord = min n (Nat.pow 2 64 - 1) := by
  cases x with
  | finite negative mantissa exponent =>
    cases negative with
    | false =>
      rw [rational?_finite, withSign_false, Option.some.injEq,
        natCast_div_eq_iff (ratio_pos mantissa exponent)] at value
      simp only [toWord, value, Nat.mul_div_cancel n (ratio_pos mantissa exponent)]
    | true =>
      have nonneg : (0 : ℚ) ≤ mantissa * 2 ^ exponent := by positivity
      have zero : (n : ℚ) ≤ 0 := by
        rw [← Option.some.inj value, withSign_true, neg_nonpos]
        exact nonneg
      have none : n = 0 := by exact_mod_cast Nat.le_zero.1 (by exact_mod_cast zero)
      rw [toWord_of_nonpos value zero, none, Nat.zero_min]
  | infinite negative => contradiction
  | nan => contradiction

theorem isUnit_iff : x.isUnit = true ↔ ∃ q, x.rational? = some q ∧ 0 ≤ q ∧ q ≤ 1 := by
  cases x with
  | finite negative mantissa exponent =>
    cases negative with
    | false =>
      have base : (0 : ℚ) < (ratio mantissa exponent).2 := by
        exact_mod_cast ratio_pos mantissa exponent
      have nonneg : (0 : ℚ) ≤ (ratio mantissa exponent).1 / (ratio mantissa exponent).2 := by
        positivity
      have zero : mantissa = 0 → (ratio mantissa exponent).1 ≤ (ratio mantissa exponent).2 := by
        rintro rfl
        simp [ratio]
      rw [rational?_finite]
      simp only [isUnit, withSign_false, Option.some.injEq, exists_eq_left', nonneg, true_and,
        div_le_one base, Nat.cast_le, Bool.or_eq_true, Bool.and_eq_true, decide_eq_true_eq,
        Bool.not_false]
      exact or_iff_right_of_imp zero
    | true =>
      have power : (0 : ℚ) < 2 ^ exponent := by positivity
      have nonpos : -((mantissa : ℚ) * 2 ^ exponent) ≤ 0 := by
        rw [neg_nonpos]
        positivity
      -- With a minus only the zero is left.
      have zero : 0 ≤ -((mantissa : ℚ) * 2 ^ exponent) ↔ mantissa = 0 := by
        rw [nonpos.ge_iff_eq, neg_eq_zero, mul_eq_zero_iff_right power.ne', Nat.cast_eq_zero]
      simp only [isUnit, rational?, withSign_true, Option.some.injEq, exists_eq_left', zero]
      simp only [Bool.not_true, Bool.false_and, Bool.or_false, decide_eq_true_eq]
      exact (and_iff_left (nonpos.trans zero_le_one)).symm
  | infinite negative => simp [isUnit, rational?]
  | nan => simp [isUnit, rational?]

theorem roundHalfUp_eq_iff {q : ℚ} (value : x.rational? = some q) {n : ℕ} :
    x.roundHalfUp = n ↔ (n : ℚ) ≤ |q| + 1 / 2 ∧ |q| + 1 / 2 < n + 1 := by
  cases x with
  | finite negative mantissa exponent =>
    have base : ((ratio mantissa exponent).2 : ℚ) ≠ 0 := by
      exact_mod_cast (ratio_pos mantissa exponent).ne'
    have magnitude : |q| = (ratio mantissa exponent).1 / (ratio mantissa exponent).2 := by
      rw [rational?_finite] at value
      rw [← Option.some.inj value, abs_withSign negative (by positivity)]
    have half : |q| + 1 / 2 =
        (2 * (ratio mantissa exponent).1 + (ratio mantissa exponent).2 : ℕ) /
          (2 * (ratio mantissa exponent).2 : ℕ) := by
      rw [magnitude]
      push_cast
      field_simp
    have nonneg : 0 ≤ |q| + 1 / 2 := by positivity
    rw [← Nat.floor_eq_iff nonneg, half, Nat.floor_div_eq_div]
    rfl
  | infinite negative => contradiction
  | nan => contradiction

end Tests

end Binary64

end Snippet.Number
