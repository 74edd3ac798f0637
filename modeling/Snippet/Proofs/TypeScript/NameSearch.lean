import Snippet.Json.Record
import Snippet.Proofs.TypeScript.FreshName
import Mathlib.Data.Nat.Init

/-!
# The search for a free name

A name is found by trying: first the base alone and then the base with one number after the other,
counted in a machine word, until a name is free. Every pass passes over another name that is taken,
so there are no more passes than names, and as long as the names are fewer than the numbers of the
word the search ends before the word is full. It ends at the fresh name.
-/

namespace Snippet.TypeScript

/-! ## The loop -/

/-- Where the search stands: the name that is tried, and the number for the next one. -/
structure Attempt where
  candidate : Text
  counter : Int32

namespace Attempt

def first (hint : Text) : Attempt :=
  ⟨baseName hint, 2⟩

def next (hint : Text) (a : Attempt) : Attempt :=
  ⟨baseName hint ++ Json.intText a.counter.toInt, a.counter + 1⟩

/-- The search ends from an attempt on with a given name: passes are made while the tried name is
taken, and in every pass there is room in the word for the next number. -/
inductive Ends (hint : Text) (taken : List Text) : Attempt → Text → Prop where
  | found {a : Attempt} (free : a.candidate ∉ taken) : Ends hint taken a a.candidate
  | pass {a : Attempt} {name : Text} (used : a.candidate ∈ taken)
      (room : a.counter < Int32.maxValue) (rest : Ends hint taken (a.next hint) name) :
      Ends hint taken a name

variable {hint : Text} {taken : List Text}

theorem Ends.unique {a : Attempt} {name other : Text} (ends : Ends hint taken a name)
    (ends' : Ends hint taken a other) : name = other := by
  -- Whether a pass is made is decided by whether the tried name is taken.
  induction ends with
  | found free =>
    cases ends' with
    | found _ => rfl
    | pass used _ _ => contradiction
  | pass used _ _ ih =>
    cases ends' with
    | found free => contradiction
    | pass _ _ rest => exact ih rest

/-! ## Its passes -/

def after (hint : Text) (passes : Nat) : Attempt :=
  ⟨baseName hint ++ numbered passes, Int32.ofNat (passes + 2)⟩

theorem after_zero (hint : Text) : after hint 0 = first hint := by
  simp [after, first, numbered]

theorem toInt_counter_after {passes : Nat} (bound : passes + 2 < Nat.pow 2 31) :
    (after hint passes).counter.toInt = (passes + 2 : Nat) :=
  Int32.toInt_ofNat_of_lt bound

theorem room_after {passes : Nat} (bound : passes + 3 < Nat.pow 2 31) :
    (after hint passes).counter < Int32.maxValue := by
  have power : Nat.pow 2 31 = 2147483648 := by decide
  rw [Int32.lt_iff_toInt_lt, toInt_counter_after (by omega), Int32.toInt_maxValue]
  omega

theorem next_after {passes : Nat} (bound : passes + 2 < Nat.pow 2 31) :
    (after hint passes).next hint = after hint (passes + 1) := by
  have text : Json.intText (passes + 2 : Nat) = numbered (passes + 1) := by
    rw [Json.intText, if_neg (by omega)]
    rfl
  have counter : Int32.ofNat (passes + 2) + 1 = Int32.ofNat (passes + 1 + 2) :=
    (Int32.ofNat_add (passes + 2) 1).symm
  rw [next, toInt_counter_after bound, text]
  simp only [after, counter]

/-- From every name that is tried before the first free one, the search comes to the free one. -/
theorem ends_after {free : Nat} (bound : free + 2 < Nat.pow 2 31)
    (absent : baseName hint ++ numbered free ∉ taken)
    (earlier : ∀ n < free, baseName hint ++ numbered n ∈ taken) {passes : Nat}
    (before : passes ≤ free) :
    Ends hint taken (after hint passes) (baseName hint ++ numbered free) := by
  -- The passes that are left are counted down.
  induction before using Nat.decreasingInduction with
  | self => exact .found absent
  | of_succ passes less rest =>
    rw [← next_after (by omega)] at rest
    exact .pass (earlier passes less) (room_after (by omega)) rest

end Attempt

/-! ## The number of passes -/

theorem le_length_of_taken {base : Text} {taken : List Text} {n : Nat}
    (earlier : ∀ m < n, base ++ numbered m ∈ taken) : n ≤ taken.eraseDups.length := by
  -- The endings of the names are counted, since they are all different.
  have given : ∀ m < n, numbered m ∈ takenEndings base taken.eraseDups :=
    fun m bound => mem_takenEndings.2 (List.mem_eraseDups.2 (earlier m bound))
  exact Nat.le_trans (le_length_of_numbered_mem given) (List.length_filterMap_le _ _)

/-- While fewer names are taken than a signed word of 32 bits has numbers from two on, the search
ends, and always with the name that an object takes: the base if it is free, and otherwise the base
with the smallest number from two on that makes it free. The name was not taken before, and
afterwards it is taken beside those that were. -/
theorem search_ends_at_smallest_free_name (s : Inference) (hint : Text)
    (few : s.taken.eraseDups.length < Nat.pow 2 31 - 2) :
    Attempt.Ends hint s.taken (Attempt.first hint) (s.openObject hint).1 ∧
    (∀ other, Attempt.Ends hint s.taken (Attempt.first hint) other →
      other = (s.openObject hint).1) ∧
    (baseName hint ∉ s.taken → (s.openObject hint).1 = baseName hint) ∧
    (baseName hint ∈ s.taken →
      ∃ n ≥ 2, (s.openObject hint).1 = baseName hint ++ Nat.toDigits 10 n ∧
        ∀ m ≥ 2, m < n → baseName hint ++ Nat.toDigits 10 m ∈ s.taken) ∧
    (s.openObject hint).1 ∉ s.taken ∧
    (s.openObject hint).2.taken = (s.openObject hint).1 :: s.taken := by
  obtain ⟨free, name, absent, earlier⟩ := freshName_spec hint s.taken
  -- No more passes than names, so the counter stays below its bound.
  have passes := le_length_of_taken earlier
  have ends : Attempt.Ends hint s.taken (Attempt.first hint) (s.openObject hint).1 := by
    rw [← Attempt.after_zero]
    show Attempt.Ends hint s.taken _ (freshName hint s.taken)
    rw [name]
    exact Attempt.ends_after (by omega) absent earlier (Nat.zero_le free)
  refine ⟨ends, fun other ends' => ends'.unique ends,
    fun isFree => freshName_eq_baseName isFree, ?_, freshName_notMem hint s.taken, rfl⟩
  intro used
  -- The number zero stands for the base alone, and every later one for the next number.
  cases free with
  | zero => exact absurd used (by simpa [numbered] using absent)
  | succ n =>
    refine ⟨n + 2, by omega, name, ?_⟩
    intro m above below
    obtain ⟨k, rfl⟩ := Nat.exists_eq_add_of_le' above
    exact earlier (k + 1) (by omega)

/-- The base and its first number are taken, and a later number is. -/
theorem third_item_searched :
    let s : Inference := { taken := ["Item4", "Item02", "Item2", "Item", "Nested"] }
    s.taken.eraseDups.length < Nat.pow 2 31 - 2 ∧
      Attempt.Ends "Item" s.taken (Attempt.first "Item") "Item3" ∧
      (s.openObject "Item").2.taken =
        ["Item3".toList, "Item4".toList, "Item02".toList, "Item2".toList, "Item".toList,
          "Nested".toList] := by
  intro s
  have few : s.taken.eraseDups.length < Nat.pow 2 31 - 2 := by decide
  have name : (s.openObject "Item").1 = "Item3".toList := by decide
  obtain ⟨ends, _, _, _, _, taken⟩ := search_ends_at_smallest_free_name s "Item" few
  rw [name] at ends taken
  exact ⟨few, ends, taken⟩

end Snippet.TypeScript
