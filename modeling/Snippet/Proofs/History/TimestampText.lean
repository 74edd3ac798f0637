import Mathlib.Data.List.Basic
import Snippet.History.TimestampReader
import Snippet.Proofs.Json.NumberText

/-!
# Reading timestamps back

The text of a timestamp is read as that timestamp (`parse_text`). Each part is read back on its own:
a number that is padded to the width it is read with, or that ends where no digit follows, and the
character behind it. What a reader allows beyond this, blanks, missing zeros and offsets, does not
occur in the text.
-/

namespace Snippet.History.Timestamp

open Json (EndsDigits takeWhile_digits dropWhile_digits ne_of_isDigit)

/-! ## Padded numbers -/

theorem padded_ne_nil (width n : Nat) : padded width n ≠ [] := by
  simp [padded, Nat.toDigits_ne_nil]

theorem isDigit_of_mem_padded {width n : Nat} {c : Char} (member : c ∈ padded width n) :
    c.isDigit = true := by
  rw [padded, List.mem_append] at member
  cases member with
  | inl zero =>
    obtain ⟨_, rfl⟩ := List.mem_replicate.1 zero
    rfl
  | inr digit => exact Nat.isDigit_of_mem_toDigits (by decide) (by decide) digit

theorem ofDigitChars_padded (width n : Nat) : Nat.ofDigitChars 10 (padded width n) 0 = n := by
  rw [padded, Nat.ofDigitChars_append, Nat.ofDigitChars_replicate_zero, Nat.mul_zero]
  exact Nat.ofDigitChars_ten_toDigits

theorem length_padded {width n : Nat} (positive : 0 < width) (fits : n < Nat.pow 10 width) :
    (padded width n).length = width := by
  have short : (Nat.toDigits 10 n).length ≤ width :=
    (Nat.length_toDigits_le_iff (by decide) positive).2 fits
  simp only [padded, List.length_append, List.length_replicate]
  omega

theorem padded_cons (width n : Nat) :
    ∃ c digits, padded width n = c :: digits ∧ c.isDigit = true := by
  cases shape : padded width n with
  | nil => exact absurd shape (padded_ne_nil width n)
  | cons c digits => exact ⟨c, digits, rfl, isDigit_of_mem_padded (shape ▸ List.mem_cons_self)⟩

/-! ## Numbers, parts and marks -/

/-- A padded number is read if the reader neither stops inside it nor finds a digit behind it. -/
theorem readNumber_padded {most width n : Nat} {rest : Text} (fits : n < Nat.pow 2 63)
    (enough : (padded width n).length ≤ most)
    (ends : EndsDigits (rest.take (most - (padded width n).length))) :
    readNumber most (padded width n ++ rest) = .ok (n, rest) := by
  have digits : ((padded width n ++ rest).take most).takeWhile Char.isDigit = padded width n := by
    rw [List.take_append, List.take_of_length_le enough]
    exact takeWhile_digits (fun _ => isDigit_of_mem_padded) ends
  obtain ⟨c, others, shape, isDigit⟩ := padded_cons width n
  -- The reader looks at the first character before it collects the digits.
  rw [shape, List.cons_append] at digits ⊢
  simp only [readNumber, isDigit, Bool.not_true, Bool.false_eq_true, if_false, digits]
  rw [← shape, ofDigitChars_padded, if_pos fits, ← List.cons_append, ← shape]
  simp

theorem trimStart_padded (width n : Nat) (rest : Text) :
    Text.trimStart (padded width n ++ rest) = padded width n ++ rest := by
  obtain ⟨c, digits, shape, isDigit⟩ := padded_cons width n
  rw [shape, List.cons_append, Text.trimStart]
  simp [Unicode.isBlank_of_isDigit isDigit]

theorem readPart_padded {least most n : Nat} (rest : Text) (above : least ≤ n) (below : n ≤ most)
    (small : n < 100) : readPart least most (padded 2 n ++ rest) = .ok (n, rest) := by
  have width : (padded 2 n).length = 2 := length_padded (by decide) small
  have read : readNumber 2 (padded 2 n ++ rest) = .ok (n, rest) := by
    refine readNumber_padded (Nat.lt_trans small (by decide)) (by omega) ?_
    simp [width, EndsDigits]
  rw [readPart, trimStart_padded, read]
  exact if_pos ⟨above, below⟩

theorem readMark_self {mark : Char} (filled : Unicode.isBlank mark = false) (rest : Text) :
    readMark mark (mark :: rest) = .ok rest := by
  simp [readMark, Text.trimStart, filled]

/-! ## Years -/

theorem endsDigits_take {t : Text} (ends : EndsDigits t) (n : Nat) : EndsDigits (t.take n) := by
  cases n with
  | zero => simp [EndsDigits]
  | succ n =>
    cases t with
    | nil => exact ends
    | cons c rest => exact ends

/-- After a sign a year may have any number of digits. -/
theorem readYear_signed {sign : Char} (signed : sign = '-' ∨ sign = '+') {n : Nat}
    (small : n < 1000000) {rest : Text} (ends : EndsDigits rest) :
    readYear (sign :: (padded 4 n ++ rest)) =
      .ok (if sign = '-' then -(n : Int) else n, rest) := by
  have read : readNumber (padded 4 n ++ rest).length (padded 4 n ++ rest) = .ok (n, rest) :=
    readNumber_padded (Nat.lt_trans small (by decide)) (by simp) (endsDigits_take ends _)
  have noBlank : Unicode.isBlank '-' = false ∧ Unicode.isBlank '+' = false := by decide
  have bound : (Nat.pow 2 31 : Int) = 2147483648 := by decide
  rcases signed with rfl | rfl
  · simp only [readYear, Text.trimStart, List.dropWhile_cons, noBlank, Bool.false_eq_true, if_false,
      decide_true, Bool.true_or, if_true, read, bound]
    exact if_pos ⟨by omega, by omega⟩
  · simp only [readYear, Text.trimStart, List.dropWhile_cons, noBlank, Bool.false_eq_true, if_false,
      decide_true, Bool.or_true, if_true, read, bound, (by decide : ('+' : Char) ≠ '-')]
    exact if_pos ⟨by omega, by omega⟩

theorem readYear_unsigned {n : Nat} (small : n < 10000) {rest : Text} (ends : EndsDigits rest) :
    readYear (padded 4 n ++ rest) = .ok ((n : Int), rest) := by
  have width : (padded 4 n).length = 4 := length_padded (by decide) small
  have read : readNumber 4 (padded 4 n ++ rest) = .ok (n, rest) :=
    readNumber_padded (Nat.lt_trans small (by decide)) (by omega) (endsDigits_take ends _)
  rw [readYear, trimStart_padded]
  obtain ⟨c, digits, shape, isDigit⟩ := padded_cons 4 n
  rw [shape, List.cons_append] at read ⊢
  -- A year of four digits starts with one of them, so it is read without a sign.
  have noSign : c ≠ '-' ∧ c ≠ '+' :=
    ⟨ne_of_isDigit isDigit (by decide), ne_of_isDigit isDigit (by decide)⟩
  simp [noSign, read, Except.map]

theorem readYear_yearText {year : Int} (least : -262143 ≤ year) (most : year ≤ 262142) {rest : Text}
    (ends : EndsDigits rest) : readYear (yearText year ++ rest) = .ok (year, rest) := by
  unfold yearText
  by_cases negative : year < 0
  · have back : -(year.natAbs : Int) = year := by omega
    rw [if_pos negative, List.cons_append, readYear_signed (Or.inl rfl) (by omega) ends,
      if_pos rfl, back]
  · have back : (year.natAbs : Int) = year := by omega
    rw [if_neg negative]
    by_cases short : year ≤ 9999
    · rw [if_pos short, readYear_unsigned (by omega) ends, back]
    · rw [if_neg short, List.cons_append, readYear_signed (Or.inr rfl) (by omega) ends,
        if_neg (by decide), back]

/-! ## Fractions -/

/-- The digits behind a point stand for thousandths, millionths or billionths. -/
theorem readFraction_padded {width n : Nat} (positive : 0 < width) (short : width ≤ 9)
    (fits : n < Nat.pow 10 width) {rest : Text} (ends : EndsDigits rest) :
    readFraction ('.' :: (padded width n ++ rest)) = .ok (n * Nat.pow 10 (9 - width), rest) := by
  have length := length_padded positive fits
  have power : Nat.pow 10 width ≤ Nat.pow 10 9 := Nat.pow_le_pow_right (by decide) short
  have small : n < Nat.pow 2 63 :=
    Nat.lt_of_lt_of_le fits (Nat.le_trans power (by decide))
  have read : readNumber 9 (padded width n ++ rest) = .ok (n, rest) :=
    readNumber_padded small (by omega) (endsDigits_take ends _)
  have behind : rest.dropWhile Char.isDigit = rest := by
    simpa using dropWhile_digits (List.forall_mem_nil _) ends
  simp only [readFraction, if_true, read, List.length_append, length, behind]
  rw [Nat.add_sub_cancel]

theorem readFraction_fractionText {nano : Nat} (fits : nano < 1000000000) {rest : Text}
    (ends : EndsDigits rest) (noPoint : ∀ c ∈ rest.head?, c ≠ '.') :
    readFraction (fractionText nano ++ rest) = .ok (nano, rest) := by
  have scaled (width n : Nat) (positive : 0 < width) (short : width ≤ 9) (fits : n < Nat.pow 10 width)
      (back : n * Nat.pow 10 (9 - width) = nano) :
      readFraction ('.' :: padded width n ++ rest) = .ok (nano, rest) := by
    rw [List.cons_append, readFraction_padded positive short fits ends, back]
  unfold fractionText
  split
  next zero =>
    cases rest with
    | nil => simp [readFraction, zero]
    | cons c rest => simp [readFraction, zero, noPoint c rfl]
  next =>
    split
    -- The digits that are left out are zeros, which multiplying puts back.
    next thousandths =>
      have small : nano / 1000000 < 1000 := by omega
      have back : nano / 1000000 * 1000000 = nano := by omega
      exact scaled 3 _ (by decide) (by decide) small back
    next =>
      split
      next millionths =>
        have small : nano / 1000 < 1000000 := by omega
        have back : nano / 1000 * 1000 = nano := by omega
        exact scaled 6 _ (by decide) (by decide) small back
      next => exact scaled 9 _ (by decide) (by decide) fits (Nat.mul_one nano)

/-! ## Dates and clocks -/

theorem readDate_text {year : Int} {month day : Nat} (valid : isDate year month day = true)
    (rest : Text) :
    readDate (yearText year ++ '-' :: (padded 2 month ++ '-' :: (padded 2 day ++ rest))) =
      .ok ((year, month, day), rest) := by
  simp only [isDate, Bool.and_eq_true, decide_eq_true_eq] at valid
  obtain ⟨⟨⟨⟨⟨least, most⟩, firstMonth⟩, lastMonth⟩, firstDay⟩, lastDay⟩ := valid
  -- No month has more days than two digits can write.
  have daysBound : daysInMonth year month ≤ 31 := by
    unfold daysInMonth
    split
    · split <;> decide
    · split <;> decide
  have noBlank : Unicode.isBlank '-' = false := by decide
  have noDigit : ∀ t : Text, EndsDigits ('-' :: t) := by
    rintro t _ ⟨⟩
    decide
  rw [readDate, readYear_yearText least most (noDigit _)]
  simp only [bind, Except.bind, pure, Except.pure, readMark_self noBlank,
    readPart_padded _ firstMonth lastMonth (by omega : month < 100),
    readPart_padded _ firstDay (Nat.le_trans lastDay daysBound) (by omega : day < 100)]

theorem ofParts?_parts (c : Clock) :
    Clock.ofParts? (c.second / 3600) (c.second / 60 % 60) (secondOfMinute c)
      (c.nano % 1000000000) = some c := by
  obtain ⟨second, nano, second_lt, nano_lt, leap⟩ := c
  have range : second / 3600 < 24 ∧ second / 60 % 60 < 60 ∧
      second % 60 + nano / 1000000000 ≤ 60 ∧ nano % 1000000000 < 1000000000 := by omega
  unfold Clock.ofParts? secondOfMinute
  split
  next =>
    -- The 60th second stands for a leap second, which is kept as a second that lasts longer.
    split
    next last =>
      simp only [Option.some.injEq, Clock.mk.injEq]
      dsimp only at last
      omega
    next last =>
      simp only [Option.some.injEq, Clock.mk.injEq]
      dsimp only at last
      omega
  next outside => exact absurd range outside

theorem readClock_text (c : Clock) {rest : Text} (ends : EndsDigits rest)
    (noPoint : ∀ c ∈ rest.head?, c ≠ '.') :
    readClock (padded 2 (c.second / 3600) ++ ':' :: (padded 2 (c.second / 60 % 60) ++
      ':' :: (padded 2 (secondOfMinute c) ++ (fractionText (c.nano % 1000000000) ++ rest)))) =
      .ok (c, rest) := by
  have noBlank : Unicode.isBlank ':' = false := by decide
  have hours : c.second / 3600 ≤ 23 := by have := c.second_lt; omega
  have minutes : c.second / 60 % 60 ≤ 59 := by omega
  have seconds : secondOfMinute c ≤ 60 := by
    have := c.nano_lt
    have := c.leap
    unfold secondOfMinute
    omega
  rw [readClock]
  simp only [bind, Except.bind, pure, Except.pure, readMark_self noBlank,
    readPart_padded _ (Nat.zero_le _) hours (by omega),
    readPart_padded _ (Nat.zero_le _) minutes (by omega),
    readPart_padded _ (Nat.zero_le _) seconds (by omega),
    readFraction_fractionText (Nat.mod_lt _ (by decide)) ends noPoint, ofParts?_parts]

/-! ## Timestamps -/

theorem ofLocal?_zero (date : Date) (clock : Clock) : ofLocal? date clock 0 = some ⟨date, clock⟩ := by
  obtain ⟨second, nano, second_lt, nano_lt, leap⟩ := clock
  have time : (second : Int) % 86400 = second := by omega
  -- In UTC no midnight lies between the local clock and the stored one.
  have midnights : (second : Int) / 86400 = 0 := by omega
  simp [ofLocal?, shiftClock, time, midnights]

theorem parse_text (t : Timestamp) : parse t.text = .ok t := by
  obtain ⟨⟨year, month, day, valid⟩, clock⟩ := t
  have shape : text ⟨⟨year, month, day, valid⟩, clock⟩ =
      yearText year ++ '-' :: (padded 2 month ++ '-' :: (padded 2 day ++
        'T' :: (padded 2 (clock.second / 3600) ++ ':' :: (padded 2 (clock.second / 60 % 60) ++
          ':' :: (padded 2 (secondOfMinute clock) ++
            (fractionText (clock.nano % 1000000000) ++ ['Z'])))))) := by
    simp only [text, List.append_assoc]
    rfl
  have date : Date.ofParts? year month day = some ⟨year, month, day, valid⟩ := dif_pos valid
  have ends : EndsDigits ['Z'] := by
    rintro _ ⟨⟩
    decide
  have offset : readOffset (Text.trimStart ['Z']) = .ok (0, []) := by decide +kernel
  have clockRead := readClock_text clock ends (by rintro _ ⟨⟩; decide)
  have blank : Text.isBlank [] = true := rfl
  rw [shape, parse, readDate_text valid]
  simp only [bind, Except.bind, pure, Except.pure, readSeparator, decide_true, Bool.true_or, if_true,
    clockRead, offset, blank, Bool.not_true, Bool.false_eq_true, if_false, date, ofLocal?_zero]
  rfl

end Snippet.History.Timestamp
