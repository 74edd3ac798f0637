import Snippet.Unicode.Numeral
import Snippet.Unicode.Upper

/-!
# ASCII characters in upper case

The upper case of a letter or numeral never brings in an ASCII character of another kind: what it
consists of are ASCII capitals, ASCII digits and characters beyond ASCII. The tables are checked
once, entry by entry, and the rest follows the two ways in which a mapping can answer.
-/

namespace Snippet.Unicode

def isCapitalOrForeign (c : Char) : Bool :=
  c.isUpper || c.isDigit || 0x80 ≤ c.toNat

theorem isUpper_iff_toNat {c : Char} : c.isUpper = true ↔ 0x41 ≤ c.toNat ∧ c.toNat ≤ 0x5A := by
  show decide (c.val ≥ 'A'.val ∧ c.val ≤ 'Z'.val) = true ↔ _
  rw [decide_eq_true_eq, ge_iff_le, UInt32.le_iff_toNat_le, UInt32.le_iff_toNat_le]
  rfl

/-- A code point of a character for which `isCapitalOrForeign` holds because of its place alone. -/
def IsCapitalPoint (n : Nat) : Prop :=
  (0x41 ≤ n ∧ n ≤ 0x5A) ∨ (0x80 ≤ n ∧ n < 0xD800) ∨ (0xE000 ≤ n ∧ n < 0x110000)

instance (n : Nat) : Decidable (IsCapitalPoint n) :=
  inferInstanceAs (Decidable (_ ∨ _ ∨ _))

theorem isCapitalOrForeign_ofNat {n : Nat} (place : IsCapitalPoint n) :
    isCapitalOrForeign (Char.ofNat n) = true := by
  have valid : n.isValidChar := by
    rcases place with letter | low | high
    · exact Or.inl (by omega)
    · exact Or.inl (by omega)
    · exact Or.inr (by omega)
  have same : (Char.ofNat n).toNat = n := by
    -- The place is no surrogate, so no other character stands for it.
    have checked : Char.ofNat n = Char.ofNatAux n valid := dif_pos valid
    rw [checked]
    rfl
  rcases place with letter | low | high
  · have upper := isUpper_iff_toNat.2 (same.symm ▸ letter)
    simp [isCapitalOrForeign, upper]
  · simp [isCapitalOrForeign, same, low.1]
  · have beyond : 0x80 ≤ n := by omega
    simp [isCapitalOrForeign, same, beyond]

@[elab_as_elim]
theorem forall_ascii {motive : Char → Prop} (checked : ∀ n < 0x80, motive (Char.ofNat n)) (c : Char)
    (ascii : c.toNat < 0x80) : motive c := by
  have holds := checked c.toNat ascii
  rwa [Char.ofNat_toNat] at holds

/-! ## The tables -/

set_option maxRecDepth 10000 in
/-- Every run of the mapping ends up in one of the three stretches of `IsCapitalPoint`. -/
theorem upperRuns_image : ∀ run ∈ upperRuns,
    (0x41 ≤ run.first + run.shift ∧ run.last + run.shift ≤ 0x5A) ∨
      (0x80 ≤ run.first + run.shift ∧ run.last + run.shift < 0xD800) ∨
      (0xE000 ≤ run.first + run.shift ∧ run.last + run.shift < 0x110000) := by
  decide +kernel

set_option maxRecDepth 10000 in
theorem upperExpansions_image :
    ∀ entry ∈ upperExpansions, entry.2 ≠ [] ∧ ∀ n ∈ entry.2, IsCapitalPoint n := by
  decide +kernel

theorem isCapitalOrForeign_upper_ascii (c : Char) (ascii : c.toNat < 0x80) :
    isAlphanumeric c = true → (upper c).all isCapitalOrForeign = true :=
  forall_ascii (by decide +kernel) c ascii

/-! ## Looking a character up -/

theorem CaseRun.image?_eq_some {runs : List CaseRun} {n image : Nat}
    (found : CaseRun.image? runs n = some image) :
    ∃ run ∈ runs, run.first ≤ n ∧ n ≤ run.last ∧ image = (n + run.shift).toNat := by
  induction runs with
  | nil => simp [CaseRun.image?] at found
  | cons run rest ih =>
    simp only [CaseRun.image?] at found
    split at found
    · contradiction
    · split at found
      · split at found
        · obtain rfl := Option.some.inj found
          exact ⟨run, by simp, by omega, by omega, rfl⟩
        · contradiction
      · obtain ⟨later, member, bounds⟩ := ih found
        exact ⟨later, by simp [member], bounds⟩

theorem CaseMapping.expansion?_eq_some {expansions : List (Nat × List Nat)} {n : Nat}
    {images : List Nat} (found : CaseMapping.expansion? expansions n = some images) :
    (n, images) ∈ expansions := by
  induction expansions with
  | nil => simp [CaseMapping.expansion?] at found
  | cons entry rest ih =>
    obtain ⟨source, target⟩ := entry
    simp only [CaseMapping.expansion?] at found
    split at found
    · contradiction
    · split at found
      next same =>
        obtain rfl := Option.some.inj found
        simp [same]
      next => simp [ih found]

/-- What a mapping to upper case can answer: one capital, an expansion, or the character itself. -/
theorem upper_cases (c : Char) :
    (∃ n, IsCapitalPoint n ∧ upper c = [Char.ofNat n]) ∨
      (∃ images, images ≠ [] ∧ (∀ n ∈ images, IsCapitalPoint n) ∧
        upper c = images.map Char.ofNat) ∨
      upper c = [c] := by
  simp only [upper, CaseMapping.apply]
  split
  next n found =>
    obtain ⟨run, member, lower, higher, rfl⟩ := CaseRun.image?_eq_some found
    refine Or.inl ⟨_, ?_, rfl⟩
    -- The image lies between the images of the ends of its run.
    have stretch := upperRuns_image run member
    unfold IsCapitalPoint
    omega
  next =>
    split
    next images found =>
      have place := upperExpansions_image _ (CaseMapping.expansion?_eq_some found)
      exact Or.inr (Or.inl ⟨images, place.1, place.2, rfl⟩)
    next => exact Or.inr (Or.inr rfl)

theorem upper_ne_nil (c : Char) : upper c ≠ [] := by
  rcases upper_cases c with ⟨n, _, image⟩ | ⟨images, filled, _, image⟩ | image
  · simp [image]
  · simpa [image] using filled
  · simp [image]

theorem isCapitalOrForeign_of_mem_upper {c d : Char} (known : isAlphanumeric c = true)
    (member : d ∈ upper c) : isCapitalOrForeign d = true := by
  by_cases ascii : c.toNat < 0x80
  -- The tables say nothing about an ASCII character that is its own upper case.
  · exact List.all_eq_true.1 (isCapitalOrForeign_upper_ascii c ascii known) d member
  · rcases upper_cases c with ⟨n, place, image⟩ | ⟨images, _, places, image⟩ | image
    · rw [image, List.mem_singleton] at member
      exact member ▸ isCapitalOrForeign_ofNat place
    · rw [image, List.mem_map] at member
      obtain ⟨n, listed, rfl⟩ := member
      exact isCapitalOrForeign_ofNat (places n listed)
    · rw [image, List.mem_singleton] at member
      subst member
      simp [isCapitalOrForeign, Nat.le_of_not_lt ascii]

end Snippet.Unicode
