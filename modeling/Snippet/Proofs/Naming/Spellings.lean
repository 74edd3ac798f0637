import Mathlib.Data.List.Chain
import Snippet.Proofs.Naming.HyphenatedNames

/-!
# Spellings of a property

Camel case leaves no hyphen in front of a small letter, so a name in camel case stays as it is when
camel case is made of it again. The spelling with hyphens does not change the camel case of a name,
and camel case does not change the spelling with hyphens, so two names have the same camel case
exactly if they are spelled alike with hyphens. In a style object such properties share an entry.
-/

namespace Snippet

namespace Naming

/-- A name in which no hyphen stands right before a small letter. -/
def IsCamelCase (name : Text) : Prop :=
  name.IsChain fun c d => ¬ (c = '-' ∧ d.isLower = true)

instance (name : Text) : Decidable (IsCamelCase name) :=
  inferInstanceAs (Decidable (name.IsChain fun c d => ¬ (c = '-' ∧ d.isLower = true)))

/-! ## Names that stay as they are -/

theorem ne_hyphen_of_isUpper {c : Char} (capital : c.isUpper = true) : c ≠ '-' := by
  rintro rfl
  exact absurd capital (by decide)

/-- The first character of a name stays, unless a capital takes its place. -/
theorem head_camelCase (c : Char) (rest : Text) :
    ∀ d ∈ (camelCase (c :: rest)).head?, d = c ∨ d.isUpper = true := by
  intro d first
  cases rest with
  | nil => exact Or.inl (by simpa [camelCase, eq_comm] using first)
  | cons e rest =>
    rw [camelCase] at first
    split at first
    next hyphen =>
      obtain ⟨_, small⟩ : c = '-' ∧ e.isLower = true := by simpa using hyphen
      obtain rfl : e.toUpper = d := by simpa using first
      exact Or.inr (isUpper_toUpper small).1
    next => exact Or.inl (by simpa [eq_comm] using first)

theorem isCamelCase_camelCase (name : Text) : IsCamelCase (camelCase name) := by
  fun_induction camelCase name with
  | case1 => exact .nil
  | case2 c => exact .singleton c
  -- A match puts a capital behind whatever stands before it, and that capital is no hyphen.
  | case3 c d rest hyphen ih =>
    obtain ⟨_, small⟩ : c = '-' ∧ d.isLower = true := by simpa using hyphen
    refine List.isChain_cons.2 ⟨?_, ih⟩
    rintro e _ ⟨same, _⟩
    exact ne_hyphen_of_isUpper (isUpper_toUpper small).1 same
  | case4 c d rest noMatch ih =>
    refine List.isChain_cons.2 ⟨?_, ih⟩
    rintro e first ⟨rfl, small⟩
    rcases head_camelCase d rest e first with rfl | capital
    · exact noMatch (by simp [small])
    · rw [isUpper_of_isLower small] at capital
      contradiction

theorem camelCase_eq_self_iff {name : Text} : camelCase name = name ↔ IsCamelCase name := by
  constructor
  · intro same
    rw [← same]
    exact isCamelCase_camelCase name
  · intro settled
    fun_induction camelCase name with
    | case1 => rfl
    | case2 c => rfl
    -- A name in camel case has no match to replace.
    | case3 c d rest hyphen _ =>
      obtain ⟨apart, _⟩ := List.isChain_cons_cons.1 settled
      exact absurd (by simpa using hyphen) apart
    | case4 c d rest _ ih =>
      obtain ⟨_, others⟩ := List.isChain_cons_cons.1 settled
      rw [ih others]

theorem camelCase_camelCase (name : Text) : camelCase (camelCase name) = camelCase name :=
  camelCase_eq_self_iff.2 (isCamelCase_camelCase name)

/-! ## Names that are spelled alike -/

theorem camelCase_hyphen_cons {d : Char} (small : d.isLower = true) (rest : Text) :
    camelCase ('-' :: d :: rest) = d.toUpper :: camelCase rest := by
  rw [camelCase, if_pos (by simp [small])]

theorem camelCase_cons {c : Char} {rest : Text}
    (apart : ∀ d ∈ rest.head?, ¬ (c = '-' ∧ d.isLower = true)) :
    camelCase (c :: rest) = c :: camelCase rest := by
  cases rest with
  | nil => rfl
  | cons d rest => rw [camelCase, if_neg (by simpa using apart d rfl)]

theorem head_hyphenated (c : Char) (rest : Text) :
    ∀ d ∈ (hyphenated (c :: rest)).head?, d = c ∨ d = '-' := by
  intro d first
  cases capital : c.isUpper with
  | true =>
    rw [hyphenated_cons_of_isUpper capital] at first
    exact Or.inr (by simpa [eq_comm] using first)
  | false =>
    rw [hyphenated_cons capital] at first
    exact Or.inl (by simpa [eq_comm] using first)

theorem isLower_toLower_ascii (c : Char) (ascii : c.toNat < 0x80) :
    c.isUpper = true → c.toLower.isLower = true ∧ c.toLower.toUpper = c :=
  Unicode.forall_ascii (by decide +kernel) c ascii

theorem isLower_toLower {c : Char} (capital : c.isUpper = true) :
    c.toLower.isLower = true ∧ c.toLower.toUpper = c := by
  have place := (Unicode.isUpper_iff_toNat.1 capital).2
  exact isLower_toLower_ascii c (by omega) capital

theorem camelCase_hyphenated_cons {c : Char} {rest : Text}
    (apart : ∀ d ∈ (hyphenated rest).head?, ¬ (c = '-' ∧ d.isLower = true)) :
    camelCase (hyphenated (c :: rest)) = c :: camelCase (hyphenated rest) := by
  cases capital : c.isUpper with
  | true =>
    obtain ⟨small, back⟩ := isLower_toLower capital
    rw [hyphenated_cons_of_isUpper capital, camelCase_hyphen_cons small, back]
  | false => rw [hyphenated_cons capital, camelCase_cons apart]

theorem camelCase_hyphenated (name : Text) : camelCase (hyphenated name) = camelCase name := by
  fun_induction camelCase name with
  | case1 => rfl
  | case2 c => exact camelCase_hyphenated_cons (by simp [hyphenated])
  | case3 c d rest hyphen ih =>
    -- A hyphen is no capital and neither is the letter behind it, so the match stays as it is.
    obtain ⟨rfl, small⟩ : c = '-' ∧ d.isLower = true := by simpa using hyphen
    rw [hyphenated_cons (by decide), hyphenated_cons (isUpper_of_isLower small),
      camelCase_hyphen_cons small, ih]
  | case4 c d rest noMatch ih =>
    rw [camelCase_hyphenated_cons, ih]
    rintro e first ⟨rfl, small⟩
    rcases head_hyphenated d rest e first with rfl | rfl
    · exact noMatch (by simp [small])
    · exact absurd small (by decide)

theorem camelCase_eq_iff {name other : Text} :
    camelCase name = camelCase other ↔ hyphenated name = hyphenated other := by
  constructor
  · intro same
    rw [← hyphenated_camelCase_eq name, same, hyphenated_camelCase_eq]
  · intro same
    rw [← camelCase_hyphenated name, same, camelCase_hyphenated]

end Naming

/-! ## Properties of a style sheet -/

namespace Style

open Naming (camelCase hyphenated IsCamelCase)

/-- Camel case leaves no hyphen before a small letter, so nothing changes when it is made again. A
declared property that is in camel case already is thus a key of the object that a style sheet
becomes, and so is the camel case of its spelling with hyphens; another declaration comes under this
key exactly if its property is spelled alike with hyphens. -/
theorem camel_cased_property_is_key (config : Config) (sheet : Text) :
    (∀ name, IsCamelCase (camelCase name) ∧ camelCase (camelCase name) = camelCase name) ∧
    Conversion.cssObject.run config sheet = .ok (objectLiteral (sheetEntries sheet)) ∧
    ∀ d ∈ lineDeclarations sheet, IsCamelCase d.property →
      camelCase (hyphenated d.property) = d.property ∧
      (∃! value, (d.property, value) ∈ sheetEntries sheet) ∧
      ∀ other ∈ lineDeclarations sheet,
        ((∃ entry ∈ sheetEntries sheet,
          entry.1 = d.property ∧ entry.1 = camelCase other.property) ↔
          hyphenated other.property = hyphenated d.property) := by
  refine ⟨fun name => ⟨Naming.isCamelCase_camelCase name, Naming.camelCase_camelCase name⟩, rfl, ?_⟩
  intro d declared settled
  have own : camelCase d.property = d.property := Naming.camelCase_eq_self_iff.2 settled
  have entered := existsUnique_entry declared
  rw [own] at entered
  refine ⟨(Naming.camelCase_hyphenated d.property).trans own, entered, ?_⟩
  intro other _
  rw [← Naming.camelCase_eq_iff, own]
  constructor
  · rintro ⟨entry, _, here, there⟩
    exact there.symm.trans here
  · intro same
    obtain ⟨value, listed, _⟩ := entered
    exact ⟨_, listed, rfl, same.symm⟩

/-- A property in camel case with hyphens that stay, its spelling with hyphens, and a mixed one. -/
theorem kept_hyphens_share_entry :
    let sheet : Text := "--ms-Grid-2: 1\r\n-MsGrid-2 : 2;\n--ms--grid-2:3\n--ms-grid-2:4"
    let d : Declaration := ⟨"-MsGrid-2", "2"⟩
    let spelled : Declaration := ⟨"--ms-grid-2", "4"⟩
    (d ∈ lineDeclarations sheet ∧ spelled ∈ lineDeclarations sheet) ∧ IsCamelCase d.property ∧
      hyphenated d.property = spelled.property ∧
      sheetEntries sheet = [(↑"-Ms-Grid-2", ↑"3"), (↑"-MsGrid-2", ↑"4")] ∧
      camelCase spelled.property = d.property ∧
      ∃ entry ∈ sheetEntries sheet, entry.1 = d.property ∧ entry.1 = camelCase spelled.property := by
  intro sheet d spelled
  obtain ⟨_, _, keys⟩ := camel_cased_property_is_key {} sheet
  have declared : d ∈ lineDeclarations sheet ∧ spelled ∈ lineDeclarations sheet := by
    decide +kernel
  have settled : IsCamelCase d.property := by decide
  have spelling : hyphenated d.property = spelled.property := by decide
  obtain ⟨back, _, shares⟩ := keys d declared.1 settled
  exact ⟨declared, settled, spelling, by decide +kernel, spelling ▸ back,
    (shares spelled declared.2).2 (by decide)⟩

end Style

end Snippet
