import Snippet.Naming.TypeName
import Snippet.Proofs.Unicode.UpperCase
import Snippet.Text.Identifier

/-!
# Characters of names

The names of types are built from keys of any kind, but what remains of a key in a name are the
characters of identifiers and characters beyond ASCII. Moreover a name has a character that is no
small ASCII letter, so that it is none of the words for built-in types; making a singular of it
keeps that character.
-/

namespace Snippet.Naming

def isNameChar (c : Char) : Bool :=
  Text.isIdentifierPart c || 0x80 ≤ c.toNat

/-- A text of name characters that is no word in small ASCII letters. -/
structure IsName (t : Text) : Prop where
  chars : ∀ c ∈ t, isNameChar c = true
  distinct : ∃ c ∈ t, c.isLower = false

/-- A text from which names can be made: a name itself, or nothing. -/
def IsHint (t : Text) : Prop :=
  t = [] ∨ IsName t

theorem IsName.append {t ending : Text} (isName : IsName t)
    (chars : ∀ c ∈ ending, isNameChar c = true) : IsName (t ++ ending) := by
  obtain ⟨c, member, capital⟩ := isName.distinct
  exact ⟨List.forall_mem_append.2 ⟨isName.chars, chars⟩, c, List.mem_append_left _ member, capital⟩

theorem IsName.of_append {t ending : Text} (isName : IsName (t ++ ending))
    (small : ∀ c ∈ ending, c.isLower = true) : IsName t := by
  obtain ⟨here, _⟩ := List.forall_mem_append.1 isName.chars
  obtain ⟨c, member, capital⟩ := isName.distinct
  cases List.mem_append.1 member with
  | inl kept => exact ⟨here, c, kept, capital⟩
  | inr lost => simp [small c lost] at capital

/-! ## Single characters -/

theorem isLower_iff_toNat {c : Char} : c.isLower = true ↔ 0x61 ≤ c.toNat ∧ c.toNat ≤ 0x7A := by
  show (decide (c.val ≥ 'a'.val) && decide (c.val ≤ 'z'.val)) = true ↔ _
  rw [Bool.and_eq_true, decide_eq_true_eq, decide_eq_true_eq, ge_iff_le, UInt32.le_iff_toNat_le,
    UInt32.le_iff_toNat_le]
  rfl

theorem isNameChar_of_isCapitalOrForeign {c : Char}
    (capital : Unicode.isCapitalOrForeign c = true) : isNameChar c = true := by
  simp only [Unicode.isCapitalOrForeign, Bool.or_eq_true] at capital
  rcases capital with (upper | digit) | foreign
  · have letter : c.isAlpha = true := by
      show (c.isUpper || c.isLower) = true
      rw [upper, Bool.true_or]
    simp [isNameChar, Text.isIdentifierPart, Text.isIdentifierStart, letter]
  · simp [isNameChar, Text.isIdentifierPart, digit]
  · simpa [isNameChar] using Or.inr foreign

theorem isLower_of_isCapitalOrForeign {c : Char}
    (capital : Unicode.isCapitalOrForeign c = true) : c.isLower = false := by
  rw [Bool.eq_false_iff]
  intro small
  have place := isLower_iff_toNat.1 small
  simp only [Unicode.isCapitalOrForeign, Bool.or_eq_true, decide_eq_true_eq] at capital
  rcases capital with (upper | digit) | foreign
  · have other := Unicode.isUpper_iff_toNat.1 upper
    omega
  · have other := (Char.isDigit_iff_toNat.1 digit).2
    have nine : '9'.toNat = 57 := rfl
    omega
  · omega

theorem isNameChar_ascii (c : Char) (ascii : c.toNat < 0x80) :
    Unicode.isAlphanumeric c = true → isNameChar c = true :=
  Unicode.forall_ascii (by decide +kernel) c ascii

theorem isNameChar_of_isAlphanumeric {c : Char} (known : Unicode.isAlphanumeric c = true) :
    isNameChar c = true := by
  by_cases ascii : c.toNat < 0x80
  -- In ASCII this is checked letter by letter; beyond it every character is one of names.
  · exact isNameChar_ascii c ascii known
  · simp [isNameChar, Nat.le_of_not_lt ascii]

/-! ## Type names -/

/-- What the runs of a key consist of: letters and numerals of the key, or the upper case of these. -/
theorem exists_of_mem_capitalizeRuns {starts : Bool} {key : Text} {d : Char}
    (member : d ∈ capitalizeRuns starts key) :
    ∃ c ∈ key, Unicode.isAlphanumeric c = true ∧ (d = c ∨ d ∈ Unicode.upper c) := by
  induction key generalizing starts with
  | nil => simp [capitalizeRuns] at member
  | cons first rest ih =>
    have behind {starts : Bool} (later : d ∈ capitalizeRuns starts rest) :
        ∃ c ∈ first :: rest, Unicode.isAlphanumeric c = true ∧ (d = c ∨ d ∈ Unicode.upper c) := by
      obtain ⟨c, listed, origin⟩ := ih later
      exact ⟨c, List.mem_cons_of_mem first listed, origin⟩
    simp only [capitalizeRuns] at member
    split at member
    next known =>
      cases List.mem_append.1 member with
      | inl head =>
        refine ⟨first, List.mem_cons_self, known, ?_⟩
        split at head
        · exact Or.inr head
        · exact Or.inl (List.mem_singleton.1 head)
      | inr tail => exact behind tail
    next => exact behind member

theorem isNameChar_of_mem_capitalizeRuns {starts : Bool} {key : Text} {c : Char}
    (member : c ∈ capitalizeRuns starts key) : isNameChar c = true := by
  obtain ⟨source, _, known, rfl | capital⟩ := exists_of_mem_capitalizeRuns member
  · exact isNameChar_of_isAlphanumeric known
  · exact isNameChar_of_isCapitalOrForeign (Unicode.isCapitalOrForeign_of_mem_upper known capital)

/-- The type name of a key is empty or an ending of its runs from a letter on, with that letter in
upper case. -/
theorem typeName_cases (key : Text) :
    typeName key = [] ∨
      ∃ c rest, Unicode.isAlphabetic c = true ∧ c :: rest ⊆ capitalizeRuns true key ∧
        typeName key = Unicode.upper c ++ rest := by
  cases kept : (capitalizeRuns true key).dropWhile fun c => !Unicode.isAlphabetic c with
  | nil => simp [typeName, kept, capitalize]
  | cons c rest =>
    right
    have suffix := List.dropWhile_suffix (l := capitalizeRuns true key)
      fun c => !Unicode.isAlphabetic c
    have letter := List.head?_dropWhile_not (fun c => !Unicode.isAlphabetic c)
      (capitalizeRuns true key)
    rw [kept] at suffix letter
    exact ⟨c, rest, by simpa using letter, suffix.subset, by simp [typeName, kept, capitalize]⟩

theorem isHint_typeName (key : Text) : IsHint (typeName key) := by
  rcases typeName_cases key with empty | ⟨c, rest, letter, kept, name⟩
  · exact Or.inl empty
  · have known : Unicode.isAlphanumeric c = true := by simp [Unicode.isAlphanumeric, letter]
    have capitals : ∀ d ∈ Unicode.upper c, Unicode.isCapitalOrForeign d = true :=
      fun d member => Unicode.isCapitalOrForeign_of_mem_upper known member
    -- The upper case of the first letter starts the name and makes it distinct.
    obtain ⟨first, member⟩ := List.exists_mem_of_ne_nil _ (Unicode.upper_ne_nil c)
    refine Or.inr ⟨?_, first, ?_, ?_⟩
    · intro d listed
      rw [name, List.mem_append] at listed
      cases listed with
      | inl head =>
        exact isNameChar_of_isCapitalOrForeign (capitals d head)
      | inr tail =>
        exact isNameChar_of_mem_capitalizeRuns (kept (List.mem_cons_of_mem c tail))
    · rw [name]
      exact List.mem_append_left rest member
    · exact isLower_of_isCapitalOrForeign (capitals first member)

/-! ## Singulars -/

/-- What a singular can be: the `ies` of the name made `y`, its last `s` dropped, or the name. -/
theorem singular_cases (name : Text) :
    (∃ stem : Text, stem ≠ [] ∧ name = stem ++ "ies" ∧ singular name = stem ++ "y") ∨
      (∃ stem : Text, stem ≠ [] ∧ name = stem ++ "s" ∧ ¬ "ss".toList <:+ name ∧
        singular name = stem) ∨
      singular name = name := by
  unfold singular
  split
  next c stem found =>
    exact Or.inl ⟨c :: stem, by simp, Text.dropEnding?_eq_some_iff.1 found, rfl⟩
  next =>
    split
    next shorter =>
      simp only [Text.hasEnding, Bool.and_eq_true, decide_eq_true_eq, Bool.not_eq_true',
        List.isSuffixOf_iff_suffix, ← Bool.not_eq_true] at shorter
      -- The name is longer than its ending, so something stands before the `s`.
      obtain ⟨⟨long, stem, rfl⟩, single⟩ := shorter
      refine Or.inr (Or.inl ⟨stem, ?_, rfl, single, ?_⟩)
      · rintro rfl
        simp at long
      · simp
    next => exact Or.inr (Or.inr rfl)

theorem singular_eq_self {name : Text} (last : name.getLast? ≠ some 's') : singular name = name := by
  rcases singular_cases name with ⟨stem, _, rfl, _⟩ | ⟨stem, _, rfl, _⟩ | same
  · exact absurd (by simp [List.getLast?_append]) last
  · exact absurd (by simp [List.getLast?_append]) last
  · exact same

/-- A singular loses small letters only, so the character that makes it distinct stays. -/
theorem isName_singular {name : Text} (isName : IsName name) : IsName (singular name) := by
  rcases singular_cases name with ⟨stem, _, plural, shape⟩ | ⟨stem, _, plural, _, shape⟩ | shape
  · rw [shape]
    subst plural
    have small : ∀ c ∈ "ies".toList, c.isLower = true := List.all_eq_true.1 (by decide)
    have letter : ∀ c ∈ "y".toList, isNameChar c = true := List.all_eq_true.1 (by decide)
    exact (isName.of_append small).append letter
  · rw [shape]
    subst plural
    have small : ∀ c ∈ "s".toList, c.isLower = true := List.all_eq_true.1 (by decide)
    exact isName.of_append small
  · rwa [shape]

theorem isHint_singular {hint : Text} (isHint : IsHint hint) : IsHint (singular hint) := by
  cases isHint with
  | inl same =>
    subst same
    exact Or.inl (by decide)
  | inr isName =>
    exact Or.inr (isName_singular isName)

/-! ## Names made from the name of a root -/

theorem singular_append_item (root : Text) : singular (root ++ "Item") = root ++ "Item" :=
  singular_eq_self (by simp [List.getLast?_append])

theorem isNameChar_of_isIdentifier {t : Text} (valid : Text.isIdentifier t = true) :
    ∀ c ∈ t, isNameChar c = true := by
  cases t with
  | nil => contradiction
  | cons first rest =>
    simp only [Text.isIdentifier, Bool.and_eq_true, List.all_eq_true] at valid
    refine List.forall_mem_cons.2 ⟨?_, ?_⟩
    · simp [isNameChar, Text.isIdentifierPart, valid.1]
    · intro c later
      simp [isNameChar, valid.2 c later]

/-- The name of a root can be a word in small letters; with `Item` behind it, it is a name. -/
theorem isName_append_item {root : Text} (valid : Text.isIdentifier root = true) :
    IsName (root ++ "Item") := by
  have parts : ∀ c ∈ "Item".toList, isNameChar c = true := List.all_eq_true.1 (by decide)
  constructor
  · exact List.forall_mem_append.2 ⟨isNameChar_of_isIdentifier valid, parts⟩
  · exact ⟨'I', List.mem_append_right root (by decide), by decide⟩

end Snippet.Naming
