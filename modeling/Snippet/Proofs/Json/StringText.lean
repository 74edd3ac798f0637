import Snippet.Json.Reader
import Snippet.Text.Quoted

/-!
# Reading strings back

A text in double quotation marks is read as the text that was quoted, whatever follows it. Since the
reader stops at the closing mark by itself, a quoted text at the start of a longer one shows both
the text that was quoted and where it ends. No control character stands in a quoted text.
-/

namespace Snippet.Json

open Text (escapeChar escape quote)

/-! ## Escapes of characters -/

/-- A character is escaped by a letter, by its number if it is another control character, or stands
for itself. -/
theorem escapeChar_cases (c : Char) :
    (∃ letter, letter ≠ 'u' ∧ 0x20 ≤ letter.toNat ∧ letterChar? letter = some c ∧
        escapeChar c = ['\\', letter]) ∨
      (c.toNat < 0x20 ∧ escapeChar c =
        ['\\', 'u', '0', '0', Nat.digitChar (c.toNat / 16), Nat.digitChar (c.toNat % 16)]) ∨
      (c ≠ '"' ∧ c ≠ '\\' ∧ 0x20 ≤ c.toNat ∧ escapeChar c = [c]) := by
  by_cases named : c ∈ ['"', '\\', '\n', '\r', '\t', '\x08', '\x0c']
  · simp only [List.mem_cons, List.not_mem_nil, or_false] at named
    left
    rcases named with rfl | rfl | rfl | rfl | rfl | rfl | rfl <;>
      exact ⟨_, by decide, by decide, by decide, rfl⟩
  · simp only [List.mem_cons, List.not_mem_nil, or_false, not_or] at named
    obtain ⟨mark, backslash, feed, ret, tab, back, form⟩ := named
    right
    by_cases control : c.toNat < 0x20
    · left
      refine ⟨control, ?_⟩
      simp only [escapeChar, mark, backslash, feed, ret, tab, back, form, control, if_true,
        if_false]
      rfl
    · right
      refine ⟨mark, backslash, Nat.le_of_not_lt control, ?_⟩
      simp only [escapeChar, mark, backslash, feed, ret, tab, back, form, control, if_false]

theorem digitChar_printed : ∀ n < 16, 0x20 ≤ (Nat.digitChar n).toNat := by
  decide

theorem printed_of_mem_escapeChar {c d : Char} (member : d ∈ escapeChar c) : 0x20 ≤ d.toNat := by
  rcases escapeChar_cases c with ⟨letter, _, printed, _, shape⟩ | ⟨_, shape⟩ | ⟨_, _, printed, shape⟩
  · simp only [shape, List.mem_cons, List.not_mem_nil, or_false] at member
    rcases member with rfl | rfl
    · decide
    · exact printed
  · have high := digitChar_printed (c.toNat / 16) (by omega)
    have low := digitChar_printed (c.toNat % 16) (by omega)
    simp only [shape, List.mem_cons, List.not_mem_nil, or_false] at member
    rcases member with rfl | rfl | rfl | rfl | rfl | rfl
    · decide
    · decide
    · decide
    · decide
    · exact high
    · exact low
  · simp only [shape, List.mem_singleton] at member
    exact member ▸ printed

theorem printed_of_mem_quote {t : Text} {c : Char} (member : c ∈ quote t) : 0x20 ≤ c.toNat := by
  simp only [quote, escape, List.mem_cons, List.mem_append, List.mem_flatMap, List.not_mem_nil,
    or_false] at member
  rcases member with rfl | ⟨d, _, inside⟩ | rfl
  · decide
  · exact printed_of_mem_escapeChar inside
  · decide

/-! ## Reading -/

theorem hexValue?_digitChar : ∀ n < 16, hexValue? (Nat.digitChar n) = some n := by
  decide

theorem unit?_control {n : Nat} (control : n < 0x20) :
    unit? '0' '0' (Nat.digitChar (n / 16)) (Nat.digitChar (n % 16)) = some n := by
  have zero : hexValue? '0' = some 0 := by decide
  have high := hexValue?_digitChar (n / 16) (by omega)
  have low := hexValue?_digitChar (n % 16) (by omega)
  simp only [unit?, zero, high, low, Option.bind_eq_bind, Option.bind_some, Option.pure_def,
    Option.some.injEq]
  omega

theorem readString_escapeChar (c : Char) (rest : Text) :
    readString (escapeChar c ++ rest) = prepend c (readString rest) := by
  rcases escapeChar_cases c with ⟨letter, other, _, known, shape⟩ | ⟨control, shape⟩ |
    ⟨mark, backslash, printed, shape⟩
  · rw [shape, readString.eq_def]
    simp [other, known]
  -- A control character is no half of a surrogate pair.
  · have basic : isTrailing c.toNat = false ∧ isLeading c.toNat = false := by
      simp only [isTrailing, isLeading, Bool.and_eq_false_iff, decide_eq_false_iff_not]
      omega
    rw [shape, readString.eq_def]
    simp [unit?_control control, basic, Char.ofNat_toNat]
  · rw [shape, readString.eq_def]
    simp [mark, backslash, Nat.not_lt.2 printed]

theorem readString_escape (t rest : Text) :
    readString (escape t ++ '"' :: rest) = .ok (t, rest) := by
  induction t with
  | nil =>
    show readString ('"' :: rest) = _
    rw [readString.eq_def]
    rfl
  | cons c t ih =>
    have step := readString_escapeChar c (escape t ++ '"' :: rest)
    rw [ih, ← List.append_assoc] at step
    exact step

theorem quote_append (t rest : Text) : quote t ++ rest = '"' :: (escape t ++ '"' :: rest) := by
  simp [quote]

/-- A quoted text at the start of a longer text shows what was quoted and where it ends. -/
theorem quote_append_inj {t t' rest rest' : Text} (same : quote t ++ rest = quote t' ++ rest') :
    t = t' ∧ rest = rest' := by
  rw [quote_append, quote_append, List.cons.injEq] at same
  have read := readString_escape t rest
  rw [same.2, readString_escape] at read
  obtain ⟨rfl, rfl⟩ := Prod.mk.inj (Except.ok.inj read)
  exact ⟨rfl, rfl⟩

end Snippet.Json
