import Snippet.Proofs.Naming.NameCharacters
import Snippet.TypeScript.Inference
import Mathlib.Data.List.Nodup
import Mathlib.Data.List.Perm.Subperm

/-!
# Fresh names

A name that is made for an object is never one that is taken: among the endings that are tried there
is one more than there are names taken, so one of them is free. The first free one is used.
-/

namespace Snippet.TypeScript

open Naming (IsName IsHint isNameChar)

/-- What a name starts with: its hint, or the default name if the hint is empty. -/
def baseName (hint : Text) : Text :=
  if hint.isEmpty then defaultName else hint

theorem baseName_of_ne_nil {hint : Text} (filled : hint ≠ []) : baseName hint = hint := by
  simp [baseName, filled]

/-! ## Endings -/

theorem numbered_injective {m n : Nat} (same : numbered m = numbered n) : m = n := by
  cases m with
  | zero =>
    cases n with
    | zero => rfl
    | succ n => exact absurd same.symm Nat.toDigits_ne_nil
  | succ m =>
    cases n with
    | zero => exact absurd same Nat.toDigits_ne_nil
    | succ n =>
      -- Both are decimal numbers, which can be read back.
      have values := congrArg (Nat.ofDigitChars 10 · 0) same
      simp only [numbered, Nat.ofDigitChars_ten_toDigits] at values
      omega

theorem isDigit_of_mem_numbered {n : Nat} {c : Char} (member : c ∈ numbered n) :
    c.isDigit = true := by
  cases n with
  | zero => simp [numbered] at member
  | succ n => exact Nat.isDigit_of_mem_toDigits (by decide) (by decide) member

/-- Endings that are tried are different, so no more of them are given than there are given ones. -/
theorem le_length_of_numbered_mem {endings : List Text} {n : Nat}
    (given : ∀ m < n, numbered m ∈ endings) : n ≤ endings.length := by
  have subset : (List.range n).map numbered ⊆ endings := by
    intro ending member
    obtain ⟨m, bound, rfl⟩ := List.mem_map.1 member
    exact given m (List.mem_range.1 bound)
  have distinct : ((List.range n).map numbered).Nodup :=
    List.nodup_range.map fun _ _ => numbered_injective
  have bound := (List.subperm_of_subset distinct subset).length_le
  rwa [List.length_map, List.length_range] at bound

theorem exists_free_numbered (endings : List Text) :
    ∃ n < endings.length + 1, numbered n ∉ endings := by
  by_contra none
  have given : ∀ m < endings.length + 1, numbered m ∈ endings := by
    intro m bound
    by_contra free
    exact none ⟨m, bound, free⟩
  have bound := le_length_of_numbered_mem given
  omega

theorem freshEnding_spec (endings : List Text) :
    ∃ n, freshEnding endings = numbered n ∧ numbered n ∉ endings ∧
      ∀ m < n, numbered m ∈ endings := by
  obtain ⟨free, bound, absent⟩ := exists_free_numbered endings
  cases found : (List.range (endings.length + 1)).find?
      fun n => !endings.contains (numbered n) with
  | none =>
    -- The search does not fail: it comes to the free ending.
    have taken := List.find?_eq_none.1 found free (List.mem_range.2 bound)
    simp [absent] at taken
  | some n =>
    obtain ⟨isFree, _, earlier⟩ := List.find?_range_eq_some.1 found
    refine ⟨n, by simp only [freshEnding, found, Option.getD_some], by simpa using isFree, ?_⟩
    intro m smaller
    simpa using earlier m smaller

/-! ## Names -/

/-- A fresh name is its base with a number behind it, the first one that makes it free. -/
theorem freshName_spec (hint : Text) (taken : List Text) :
    ∃ n, freshName hint taken = baseName hint ++ numbered n ∧
      baseName hint ++ numbered n ∉ taken ∧
      ∀ m < n, baseName hint ++ numbered m ∈ taken := by
  obtain ⟨n, ending, free, earlier⟩ := freshEnding_spec (takenEndings (baseName hint) taken)
  refine ⟨n, ?_, ?_, ?_⟩
  · exact congrArg (baseName hint ++ ·) ending
  · rwa [mem_takenEndings] at free
  · intro m smaller
    exact mem_takenEndings.1 (earlier m smaller)

theorem freshName_notMem (hint : Text) (taken : List Text) : freshName hint taken ∉ taken := by
  obtain ⟨n, name, free, _⟩ := freshName_spec hint taken
  rwa [name]

theorem freshName_eq_baseName {hint : Text} {taken : List Text}
    (free : baseName hint ∉ taken) : freshName hint taken = baseName hint := by
  obtain ⟨n, name, _, earlier⟩ := freshName_spec hint taken
  cases n with
  | zero => simpa [numbered] using name
  -- If another number were first, the base alone, which is tried before it, would be taken.
  | succ n => exact absurd (by simpa [numbered] using earlier 0 (by omega)) free

theorem freshName_nil {hint : Text} (filled : hint ≠ []) : freshName hint [] = hint := by
  rw [freshName_eq_baseName List.not_mem_nil, baseName_of_ne_nil filled]

theorem isName_baseName {hint : Text} (isHint : IsHint hint) : IsName (baseName hint) := by
  -- A hint is nothing, for which the default stands, or a name.
  cases isHint with
  | inl same =>
    subst same
    exact ⟨List.all_eq_true.1 (by decide), 'N', by decide, by decide⟩
  | inr isName =>
    obtain ⟨c, member, _⟩ := isName.distinct
    rwa [baseName_of_ne_nil (List.ne_nil_of_mem member)]

theorem isName_numbered {hint : Text} (isHint : IsHint hint) (n : Nat) :
    IsName (baseName hint ++ numbered n) := by
  refine (isName_baseName isHint).append ?_
  intro c inNumber
  simp [isNameChar, Text.isIdentifierPart, isDigit_of_mem_numbered inNumber]

theorem isName_freshName {hint : Text} (isHint : IsHint hint) (taken : List Text) :
    IsName (freshName hint taken) := by
  obtain ⟨n, name, _, _⟩ := freshName_spec hint taken
  rw [name]
  exact isName_numbered isHint n

end Snippet.TypeScript
