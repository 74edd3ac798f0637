import Snippet.Number.Reader
import Snippet.Proofs.Number.ExactValue

/-!
# Rounding errors

A magnitude that the format does not represent is kept up to half a last place. So is a decimal that
is read as a number, however many digits it has, and the product of two numbers.
-/

namespace Snippet.Number

namespace Binary64

/-- A number that a magnitude is rounded to, counted in a last place that fits the magnitude: 53 binary
digits in all, and fewer only where the format has no place below. -/
structure RoundedAt (magnitude : ℚ) (x : Binary64) (place : ℤ) : Prop where
  least : -1074 ≤ place
  below : magnitude < 2 ^ (place + 53)
  reached : place = -1074 ∨ (2 : ℚ) ^ (place + 52) ≤ magnitude
  finite : place ≤ 970 → ∃ q, x.rational? = some q
  counted : ∀ q, x.rational? = some q → ∃ mantissa : ℕ, q = mantissa * 2 ^ place
  error : ∀ q, x.rational? = some q → |q - magnitude| ≤ 2 ^ place / 2

/-! ## Rounding a quotient -/

section Quotients

variable {num den : ℕ}

theorem roundDiv_error (num : ℕ) (denPos : 0 < den) :
    |(roundDiv num den : ℚ) - num / den| ≤ 1 / 2 := by
  have base : (0 : ℚ) < den := by exact_mod_cast denPos
  have parts := Nat.div_add_mod num den
  have rest := Nat.mod_lt num denPos
  have bounds : 2 * (den * roundDiv num den) ≤ 2 * num + den ∧
      2 * num ≤ 2 * (den * roundDiv num den) + den := by
    -- A tie goes to one of the two neighbours, whichever is even.
    have tie : den * (num / den + num / den % 2) = den * (num / den) ∨
        den * (num / den + num / den % 2) = den * (num / den) + den := by
      cases Nat.mod_two_eq_zero_or_one (num / den) with
      | inl even => exact Or.inl (by rw [even, Nat.add_zero])
      | inr odd => exact Or.inr (by rw [odd, Nat.mul_add_one])
    simp only [roundDiv]
    split
    next => omega
    next =>
      split
      next => rw [Nat.mul_add_one]; omega
      next => omega
  obtain ⟨low, high⟩ := bounds
  have low' : (2 : ℚ) * (den * roundDiv num den) ≤ 2 * num + den := by exact_mod_cast low
  have high' : (2 : ℚ) * num ≤ 2 * (den * roundDiv num den) + den := by exact_mod_cast high
  have multiple : ((roundDiv num den : ℚ) - num / den) * den = den * roundDiv num den - num := by
    field_simp
  rw [← mul_le_mul_iff_left₀ base, ← abs_of_pos base, ← abs_mul, abs_of_pos base, multiple, abs_le]
  constructor <;> linarith

theorem rational?_normalize (negative : Bool) (mantissa : ℕ) (exponent : ℤ) :
    (normalize negative mantissa exponent).rational? =
        some (withSign negative (mantissa * 2 ^ exponent)) ∨
      970 < exponent ∧ (normalize negative mantissa exponent).rational? = none := by
  by_cases grown : mantissa = Nat.pow 2 53
  · have same : ((Nat.pow 2 52 : ℕ) : ℚ) * 2 ^ (exponent + 1) = (Nat.pow 2 53 : ℕ) * 2 ^ exponent := by
      rw [zpow_add₀ two_ne_zero]
      push_cast
      ring
    simp only [normalize, grown, if_true]
    split
    next => exact Or.inl (by rw [rational?, same])
    next beyond => exact Or.inr ⟨by omega, rfl⟩
  · simp only [normalize, grown, if_false]
    split
    next => exact Or.inl rfl
    next beyond => exact Or.inr ⟨by omega, rfl⟩

theorem roundedAt_zero {magnitude : ℚ} (nonneg : 0 ≤ magnitude)
    (small : magnitude ≤ 2 ^ (-1074 : ℤ) / 2) :
    RoundedAt magnitude (.finite false 0 (-1074)) (-1074) where
  least := le_rfl
  below := by
    have half : (2 : ℚ) ^ (-1074 : ℤ) / 2 < 2 ^ (-1074 + 53 : ℤ) := by
      calc (2 : ℚ) ^ (-1074 : ℤ) / 2 < 2 ^ (-1074 : ℤ) := half_lt_self (by positivity)
        _ ≤ 2 ^ (-1074 + 53 : ℤ) := zpow_le_zpow_right₀ one_le_two (by decide)
    exact small.trans_lt half
  reached := Or.inl rfl
  finite _ := ⟨_, rfl⟩
  counted := by
    rintro q value
    exact ⟨0, (Option.some.inj value).symm⟩
  error := by
    rintro q value
    obtain rfl := Option.some.inj value
    rwa [withSign_false, Nat.cast_zero, zero_mul, zero_sub, abs_neg, abs_of_nonneg nonneg]

/-- A quotient is kept up to half a last place. -/
theorem roundedAt_ofRatio (num : ℕ) (denPos : 0 < den) :
    ∃ place, RoundedAt (num / den) (ofRatio false num den) place := by
  by_cases zero : num = 0
  · refine ⟨-1074, ?_⟩
    rw [ofRatio, if_pos zero, zero, Nat.cast_zero, zero_div]
    exact roundedAt_zero le_rfl (by positivity)
  · have numPos := Nat.pos_of_ne_zero zero
    obtain ⟨least, below, reached⟩ := lastPlace_spec numPos denPos
    refine ⟨lastPlace num den, ?_⟩
    rw [ofRatio, if_neg zero]
    dsimp only
    -- Counted in the last place, the quotient becomes the nearest natural number.
    generalize lastPlace num den = place at least below reached
    have scale := scale_pos denPos place
    have error := roundDiv_error (num * Nat.pow 2 (-place).toNat) scale
    rw [scaled_div num denPos place] at error
    generalize roundDiv (num * Nat.pow 2 (-place).toNat) (den * Nat.pow 2 place.toNat) = mantissa
      at error
    have power : (0 : ℚ) < 2 ^ place := by positivity
    have counted : ∀ q, (normalize false mantissa place).rational? = some q →
        q = mantissa * 2 ^ place := by
      intro q value
      obtain finite | ⟨_, infinite⟩ := rational?_normalize false mantissa place
      · rw [finite] at value
        exact (Option.some.inj value).symm
      · rw [infinite] at value
        contradiction
    refine ⟨least, below, reached, fun within => ?_, fun q value => ⟨mantissa, counted q value⟩,
      fun q value => ?_⟩
    · obtain finite | ⟨beyond, _⟩ := rational?_normalize false mantissa place
      · exact ⟨_, finite⟩
      · omega
    · rw [counted q value]
      calc |(mantissa : ℚ) * 2 ^ place - num / den|
          = |(mantissa : ℚ) - num / den / 2 ^ place| * 2 ^ place := by
            rw [← abs_of_pos power, ← abs_mul, abs_of_pos power, sub_mul, div_mul_cancel₀ _ power.ne']
        _ ≤ 1 / 2 * 2 ^ place := by gcongr
        _ = 2 ^ place / 2 := by ring

end Quotients

namespace RoundedAt

variable {magnitude : ℚ} {x : Binary64} {place : ℤ}

theorem place_le (rounded : RoundedAt magnitude x place) {k : ℤ} (least : -1022 ≤ k)
    (small : magnitude ≤ 2 ^ k) : place ≤ k - 52 := by
  cases rounded.reached with
  | inl atLeast => omega
  | inr reached =>
    have smaller := (zpow_le_zpow_iff_right₀ (one_lt_two (α := ℚ))).1 (reached.trans small)
    omega

/-- What is rounded does not pass a power of two that the format represents. -/
theorem exists_of_le (rounded : RoundedAt magnitude x place) {k : ℤ}
    (least : -1022 ≤ k) (greatest : k ≤ 1022) (small : magnitude ≤ 2 ^ k) :
    ∃ q, x.rational? = some q ∧ 0 ≤ q ∧ q ≤ 2 ^ k ∧ |q - magnitude| ≤ 2 ^ (k - 53) := by
  have placed := rounded.place_le least small
  obtain ⟨q, value⟩ := rounded.finite (by omega)
  obtain ⟨mantissa, counted⟩ := rounded.counted q value
  have error := rounded.error q value
  have power : (0 : ℚ) < 2 ^ place := by positivity
  refine ⟨q, value, ?_, ?_, error.trans ?_⟩
  · rw [counted]
    positivity
  · -- The power of two is counted in the last place as well.
    obtain ⟨shift, rfl⟩ := Int.le.dest (by omega : place ≤ k)
    have above : (mantissa : ℚ) * 2 ^ place ≤ (2 ^ shift + 1 / 2) * 2 ^ place := by
      rw [zpow_add₀ two_ne_zero, zpow_natCast] at small
      have := (abs_le.1 error).2
      rw [counted] at this
      linarith
    have rounds : (mantissa : ℚ) < 2 ^ shift + 1 := by
      have := le_of_mul_le_mul_right above power
      linarith
    have whole : mantissa ≤ 2 ^ shift := by exact_mod_cast Nat.lt_succ_iff.1 (by exact_mod_cast rounds)
    have whole' : (mantissa : ℚ) ≤ 2 ^ shift := by exact_mod_cast whole
    rw [counted, zpow_add₀ two_ne_zero, zpow_natCast, mul_comm]
    gcongr
  · calc (2 : ℚ) ^ place / 2 = 2 ^ (place - 1) := by rw [zpow_sub_one₀ two_ne_zero, div_eq_mul_inv]
      _ ≤ 2 ^ (k - 53) := zpow_le_zpow_right₀ one_le_two (by omega)

end RoundedAt

/-! ## Decimals and products -/

/-- A decimal far below the least place is no nearer to any other number than to zero. -/
theorem decimal_le_of_lt {n places : ℕ} (tiny : n.log2 + 400 < places) :
    (n : ℚ) / Nat.pow 10 places ≤ 2 ^ (-1074 : ℤ) / 2 := by
  have digits : n ≤ 10 ^ (n.log2 + 1) :=
    Nat.lt_log2_self.le.trans (Nat.pow_le_pow_left (by decide) _)
  obtain ⟨above, rfl⟩ := Nat.exists_eq_add_of_le (by omega : n.log2 + 1 ≤ places)
  -- A decimal place is worth more than three binary ones.
  have power {m : ℕ} (small : m ≤ 3 * above) : 2 ^ m ≤ 10 ^ above := by
    calc 2 ^ m ≤ 2 ^ (3 * above) := Nat.pow_le_pow_right (by decide) small
      _ = (2 ^ 3) ^ above := Nat.pow_mul 2 3 above
      _ ≤ 10 ^ above := Nat.pow_le_pow_left (by decide) above
  have scaled : 2 ^ 1075 * n ≤ 10 ^ (n.log2 + 1 + above) := by
    rw [Nat.pow_add, Nat.mul_comm]
    exact Nat.mul_le_mul digits (power (by omega))
  have scaled' : (2 : ℚ) ^ 1075 * n ≤ 10 ^ (n.log2 + 1 + above) := by exact_mod_cast scaled
  have least : (2 : ℚ) ^ (-1074 : ℤ) / 2 = 1 / 2 ^ 1075 := by
    rw [one_div, ← zpow_natCast, ← zpow_neg, div_eq_mul_inv, ← zpow_sub_one₀ two_ne_zero]
    rfl
  rw [least, Nat.pow_eq, Nat.cast_pow, Nat.cast_ofNat, div_le_div_iff₀ (by positivity) (by positivity)]
  rwa [one_mul, mul_comm]

theorem roundedAt_ofDecimal (n places : ℕ) :
    ∃ place, RoundedAt (n / Nat.pow 10 places) (ofDecimal false n (-places)) place := by
  simp only [ofDecimal]
  split
  next zero =>
    refine ⟨-1074, ?_⟩
    rw [zero, Nat.cast_zero, zero_div]
    exact roundedAt_zero le_rfl (by positivity)
  next =>
    rw [if_neg (by omega)]
    split
    next tiny =>
      exact ⟨-1074, roundedAt_zero (by positivity) (decimal_le_of_lt (by omega))⟩
    next =>
      have up : (-(places : ℤ)).toNat = 0 := by omega
      have down : (- -(places : ℤ)).toNat = places := by omega
      have one : n * Nat.pow 10 0 = n := Nat.mul_one n
      rw [up, down, one]
      exact roundedAt_ofRatio n (Nat.pow_pos (by decide))

theorem roundedAt_mul {x y : Binary64} {q r : ℚ} (positive : x.IsRounded false)
    (positive' : y.IsRounded false) (value : x.rational? = some q) (value' : y.rational? = some r) :
    ∃ place, RoundedAt (q * r) (x.mul y) place := by
  cases x with
  | finite sign mantissa exponent =>
    cases y with
    | finite sign' mantissa' exponent' =>
      obtain ⟨rfl, _⟩ := positive
      obtain ⟨rfl, _⟩ := positive'
      have product : q * r = (((ratio mantissa exponent).1 * (ratio mantissa' exponent').1 : ℕ) : ℚ) /
          ((ratio mantissa exponent).2 * (ratio mantissa' exponent').2 : ℕ) := by
        rw [rational?_finite, Option.some.injEq, withSign_false] at value value'
        rw [Nat.cast_mul, Nat.cast_mul, mul_div_mul_comm, value, value']
      rw [product]
      exact roundedAt_ofRatio _ (Nat.mul_pos (ratio_pos _ _) (ratio_pos _ _))
    | infinite sign' => contradiction
    | nan => contradiction
  | infinite sign => contradiction
  | nan => contradiction

end Binary64

end Snippet.Number
