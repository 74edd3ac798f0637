import Mathlib.Data.List.Basic
import Snippet.Json.Reader

/-!
# Reading numbers back

The text of a number is read as that number, digit for digit, if what follows cannot go on with it.
Numbers that are too large for the reader are refused: those whose value would be infinite, and
those other than zero whose exponent exceeds the limit of exponents. `readNumber_text` says this for
a number after its sign.
-/

namespace Snippet.Json

open Snippet.Number

/-! ## Readings with a condition -/

/-- A reading that has a given result under a condition and ends in a fault otherwise. -/
def ReadsIf {α : Type} (reading : Except Fault α) (result : α) (accepted : Prop) : Prop :=
  (accepted ∧ reading = .ok result) ∨ (¬ accepted ∧ ∃ fault, reading = .error fault)

namespace ReadsIf

variable {α β : Type} {reading : Except Fault α} {result : α} {accepted : Prop}

theorem ok (result : α) : ReadsIf (.ok result) result True :=
  Or.inl ⟨trivial, rfl⟩

theorem congr {other : Prop} (reads : ReadsIf reading result accepted) (same : accepted ↔ other) :
    ReadsIf reading result other := by
  rwa [propext same] at reads

theorem map (reads : ReadsIf reading result accepted) (f : α → β) :
    ReadsIf (reading.map f) (f result) accepted := by
  rcases reads with ⟨holds, rfl⟩ | ⟨fails, fault, rfl⟩
  · exact Or.inl ⟨holds, rfl⟩
  · exact Or.inr ⟨fails, fault, rfl⟩

theorem bind {next : α → Except Fault β} {final : β} {alsoAccepted : Prop}
    (reads : ReadsIf reading result accepted) (goesOn : ReadsIf (next result) final alsoAccepted) :
    ReadsIf (reading >>= next) final (accepted ∧ alsoAccepted) := by
  rcases reads with ⟨holds, rfl⟩ | ⟨fails, fault, rfl⟩
  · rcases goesOn with ⟨alsoHolds, read⟩ | ⟨fails, fault, refused⟩
    · exact Or.inl ⟨⟨holds, alsoHolds⟩, read⟩
    · exact Or.inr ⟨fun both => fails both.2, fault, refused⟩
  · exact Or.inr ⟨fun both => fails both.1, fault, rfl⟩

end ReadsIf

/-! ## Digits -/

theorem isDigit_of_mem_natText {n : Nat} {c : Char} (member : c ∈ natText n) : c.isDigit = true :=
  Nat.isDigit_of_mem_toDigits (by decide) (by decide) member

theorem digitsValue_natText (n : Nat) : digitsValue (natText n) = n :=
  Nat.ofDigitChars_ten_toDigits

theorem natText_cons (n : Nat) :
    ∃ c digits, natText n = c :: digits ∧ c.isDigit = true ∧ (n ≠ 0 → c ≠ '0') := by
  suffices start : ∃ c digits, natText n = c :: digits ∧ (n ≠ 0 → c ≠ '0') by
    obtain ⟨c, digits, shape, first⟩ := start
    have member : c ∈ natText n := shape ▸ List.mem_cons_self
    exact ⟨c, digits, shape, isDigit_of_mem_natText member, first⟩
  induction n using Nat.strongRecOn with
  | ind n ih =>
    by_cases small : n < 10
    · refine ⟨Nat.digitChar n, [], Nat.toDigits_of_lt_base small, fun positive zero => ?_⟩
      exact positive (Nat.digitChar_eq_zero.1 zero)
    -- A longer number starts as it does without its last digit.
    · obtain ⟨c, digits, shape, first⟩ := ih (n / 10) (by omega)
      refine ⟨c, digits ++ [Nat.digitChar (n % 10)], ?_, fun _ => first (by omega)⟩
      have longer : natText n = natText (n / 10) ++ [Nat.digitChar (n % 10)] :=
        Nat.toDigits_of_base_le (by decide) (by omega)
      rw [longer, shape]
      rfl

theorem ne_of_isDigit {c d : Char} (isDigit : c.isDigit = true) (other : d.isDigit = false) :
    c ≠ d := by
  rintro rfl
  exact absurd isDigit (by simp [other])

/-- A text that cannot go on with a run of digits. -/
def EndsDigits (t : Text) : Prop :=
  ∀ c ∈ t.head?, c.isDigit = false

theorem takeWhile_digits {digits tail : Text} (all : ∀ c ∈ digits, c.isDigit = true)
    (ends : EndsDigits tail) : (digits ++ tail).takeWhile Char.isDigit = digits := by
  rw [List.takeWhile_append_of_pos all]
  cases tail with
  | nil => simp
  | cons c tail => simp [ends c rfl]

theorem dropWhile_digits {digits tail : Text} (all : ∀ c ∈ digits, c.isDigit = true)
    (ends : EndsDigits tail) : (digits ++ tail).dropWhile Char.isDigit = tail := by
  rw [List.dropWhile_append_of_pos all]
  cases tail with
  | nil => rfl
  | cons c tail => simp [ends c rfl]

def fractionDigits (fraction : List Digit) : Text :=
  fraction.map fun (d : Digit) => Nat.digitChar d

theorem isDigit_of_mem_fractionDigits {fraction : List Digit} :
    ∀ c ∈ fractionDigits fraction, c.isDigit = true := by
  intro c member
  obtain ⟨d, _, rfl⟩ := List.mem_map.1 member
  simp [Nat.isDigit_digitChar]

theorem map_digit_fractionDigits (fraction : List Digit) :
    (fractionDigits fraction).map digit = fraction := by
  have back : ∀ d : Digit, digit (Nat.digitChar d) = d := by decide
  simp [fractionDigits, Function.comp_def, back]

/-! ## Parts of a number -/

def fractionText (fraction : List Digit) : Text :=
  if fraction.isEmpty then [] else '.' :: fractionDigits fraction

def exponentText : Option Int → Text
  | none => []
  | some e => 'e' :: ((if e < 0 then ['-'] else []) ++ natText e.natAbs)

def Number.magnitudeText (n : Number) : Text :=
  natText n.whole ++ (fractionText n.fraction ++ exponentText n.exponent)

theorem Number.text_eq (n : Number) :
    n.text = (if n.negative then ['-'] else []) ++ n.magnitudeText := by
  simp only [Number.text, magnitudeText, List.append_assoc]
  rfl

/-- A text that cannot go on with a number. -/
def EndsNumber (t : Text) : Prop :=
  ∀ c ∈ t.head?, c.isDigit = false ∧ c ≠ '.' ∧ c ≠ 'e' ∧ c ≠ 'E'

theorem EndsNumber.endsDigits {t : Text} (ends : EndsNumber t) : EndsDigits t :=
  fun c first => (ends c first).1

/-- A number that the reader accepts: its value is finite, and unless it is zero its exponent does
not exceed the limit. -/
def Number.InRange (n : Number) : Prop :=
  n.value?.isSome = true ∧ ∀ e ∈ n.exponent, e ≤ exponentLimit ∨ n.scientific.1 = 0

/-! ## Reading -/

theorem readSign_natText (e : Int) (rest : Text) :
    readSign ((if e < 0 then ['-'] else []) ++ natText e.natAbs ++ rest) =
      (decide (e < 0), natText e.natAbs ++ rest) := by
  by_cases negative : e < 0
  · simp [negative, readSign]
  · obtain ⟨c, digits, shape, isDigit, _⟩ := natText_cons e.natAbs
    have noMinus : c ≠ '-' := ne_of_isDigit isDigit (by decide)
    have noPlus : c ≠ '+' := ne_of_isDigit isDigit (by decide)
    simp [negative, shape, readSign, noMinus, noPlus]

theorem finishNumber_readsIf (n : Number) (rest : Text) :
    ReadsIf (finishNumber n rest) (n, rest) (n.value?.isSome = true) := by
  unfold finishNumber
  split
  next value => exact Or.inl ⟨value, rfl⟩
  next noValue => exact Or.inr ⟨noValue, _, rfl⟩

theorem scientific_fst (n : Number) (exponent : Option Int) :
    (Number.scientific { n with exponent }).1 = n.scientific.1 :=
  rfl

theorem readExponent_text (n : Number) {exponent : Option Int} {rest : Text}
    (ends : EndsNumber rest) (plain : n.exponent = none) :
    ReadsIf (readExponent n (exponentText exponent ++ rest)) ({ n with exponent }, rest)
      (Number.InRange { n with exponent }) := by
  cases exponent with
  | none =>
    have same : ({ n with exponent := none } : Number) = n := by rw [← plain]
    have finish : readExponent n rest = finishNumber n rest := by
      cases rest with
      | nil => rfl
      | cons c rest => simp [readExponent, (ends c rfl).2]
    rw [same]
    show ReadsIf (readExponent n rest) _ _
    rw [finish]
    exact (finishNumber_readsIf n rest).congr (by simp [Number.InRange, plain])
  | some e =>
    obtain ⟨c, digits, shape, isDigit, _⟩ := natText_cons e.natAbs
    have all : ∀ c ∈ natText e.natAbs, c.isDigit = true := fun _ => isDigit_of_mem_natText
    have before := takeWhile_digits all ends.endsDigits
    have behind := dropWhile_digits all ends.endsDigits
    have back : (if e < 0 then -(e.natAbs : Int) else e.natAbs) = e := by omega
    show ReadsIf
      (readExponent n ('e' :: ((if e < 0 then ['-'] else []) ++ natText e.natAbs ++ rest))) _ _
    rw [readExponent, readSign_natText]
    rw [shape, List.cons_append] at before behind ⊢
    simp only [decide_true, Bool.true_or, if_true, isDigit, Bool.not_true, Bool.false_eq_true,
      if_false, before, behind]
    rw [← shape, digitsValue_natText]
    simp only [decide_eq_true_eq, back]
    split
    next beyond =>
      simp only [Bool.and_eq_true, decide_eq_true_eq, Bool.not_eq_true', decide_eq_false_iff_not]
        at beyond
      -- What is refused here is beyond the limit and other than zero, so it is not in range.
      refine Or.inr ⟨fun inRange => ?_, _, rfl⟩
      rcases inRange.2 e rfl with small | zero
      · omega
      · exact beyond.2 ((scientific_fst n e).symm.trans zero)
    next within =>
      refine (finishNumber_readsIf _ rest).congr ⟨fun value => ⟨value, ?_⟩, And.left⟩
      rintro _ ⟨⟩
      simp only [Bool.and_eq_true, decide_eq_true_eq, Bool.not_eq_true', decide_eq_false_iff_not,
        not_and, not_not] at within
      by_cases zero : n.scientific.1 = 0
      · exact Or.inr ((scientific_fst n e).trans zero)
      · left
        by_contra beyond
        exact zero (within ⟨by omega, by omega⟩)

theorem readFraction_text (negative : Bool) (whole : Nat) (fraction : List Digit) {rest : Text}
    (ends : EndsDigits rest) (noPoint : ∀ c ∈ rest.head?, c ≠ '.') :
    readFraction negative whole (fractionText fraction ++ rest) =
      readExponent ⟨negative, whole, fraction, none⟩ rest := by
  cases fraction with
  | nil =>
    show readFraction negative whole rest = _
    cases rest with
    | nil => rfl
    | cons c rest => simp [readFraction, noPoint c rfl]
  | cons d others =>
    have all : ∀ c ∈ fractionDigits (d :: others), c.isDigit = true := isDigit_of_mem_fractionDigits
    have before := takeWhile_digits all ends
    have behind := dropWhile_digits all ends
    have isDigit : (Nat.digitChar d).isDigit = true := all _ List.mem_cons_self
    have shape : fractionDigits (d :: others) = Nat.digitChar d :: fractionDigits others := rfl
    show readFraction negative whole ('.' :: (fractionDigits (d :: others) ++ rest)) = _
    rw [shape, List.cons_append] at before behind ⊢
    rw [readFraction]
    simp only [if_true, isDigit, Bool.not_true, Bool.false_eq_true, if_false, before, behind]
    rw [← shape, map_digit_fractionDigits]

theorem readNumber_natText (negative : Bool) (whole : Nat) {rest : Text} (ends : EndsDigits rest) :
    readNumber negative (natText whole ++ rest) = readFraction negative whole rest := by
  by_cases zero : whole = 0
  · subst zero
    show readNumber negative ('0' :: rest) = _
    cases rest with
    | nil => rfl
    | cons c rest => simp [readNumber, ends c rfl]
  · obtain ⟨c, digits, shape, isDigit, first⟩ := natText_cons whole
    have all : ∀ c ∈ natText whole, c.isDigit = true := fun _ => isDigit_of_mem_natText
    have before := takeWhile_digits all ends
    have behind := dropWhile_digits all ends
    rw [shape, List.cons_append] at before behind ⊢
    rw [readNumber.eq_def]
    simp only [first zero, if_false, isDigit, if_true, before, behind]
    rw [← shape, digitsValue_natText]

theorem readNumber_text (n : Number) {rest : Text} (ends : EndsNumber rest) :
    ReadsIf (readNumber n.negative (n.magnitudeText ++ rest)) (n, rest) n.InRange := by
  -- Neither a digit nor a point stands behind the fraction, nor a digit behind the whole part.
  have afterFraction : ∀ c ∈ (exponentText n.exponent ++ rest).head?,
      c.isDigit = false ∧ c ≠ '.' := by
    cases n.exponent with
    | none => exact fun c first => ⟨(ends c first).1, (ends c first).2.1⟩
    | some e =>
      rintro c ⟨⟩
      decide
  have afterWhole : EndsDigits (fractionText n.fraction ++ (exponentText n.exponent ++ rest)) := by
    cases n.fraction with
    | nil => exact fun c first => (afterFraction c first).1
    | cons d others =>
      rintro c ⟨⟩
      decide
  rw [Number.magnitudeText, List.append_assoc, List.append_assoc, readNumber_natText _ _ afterWhole,
    readFraction_text _ _ _ (fun c first => (afterFraction c first).1)
      (fun c first => (afterFraction c first).2)]
  exact readExponent_text ⟨n.negative, n.whole, n.fraction, none⟩ ends rfl

end Snippet.Json
