import Snippet.Conversion.Run
import Snippet.Proofs.Naming.NameCharacters
import Snippet.Proofs.OrderedTable

/-!
# Hyphenated names

A name without capitals can be read back from its camel case: every capital in it has taken the
place of a hyphen and the small letter. So the properties of a style sheet that have no capitals get
different keys in a style object, and each of them an entry of its own.
-/

namespace Snippet

def Text.HasNoCapital (t : Text) : Prop :=
  ∀ c ∈ t, c.isUpper = false

instance (t : Text) : Decidable t.HasNoCapital :=
  decidable_of_iff (t.all (fun c => !c.isUpper) = true) (by simp [Text.HasNoCapital])

/-! ## Names read back from camel case -/

namespace Naming

theorem isUpper_toUpper_ascii (c : Char) (ascii : c.toNat < 0x80) :
    c.isLower = true → c.toUpper.isUpper = true ∧ c.toUpper.toLower = c :=
  Unicode.forall_ascii (by decide +kernel) c ascii

theorem isUpper_toUpper {c : Char} (small : c.isLower = true) :
    c.toUpper.isUpper = true ∧ c.toUpper.toLower = c := by
  have place := (isLower_iff_toNat.1 small).2
  exact isUpper_toUpper_ascii c (by omega) small

theorem isUpper_of_isLower {c : Char} (small : c.isLower = true) : c.isUpper = false := by
  have place := isLower_iff_toNat.1 small
  rw [← Bool.not_eq_true, Unicode.isUpper_iff_toNat]
  omega

/-- A name with a hyphen and the small letter in place of every ASCII capital. -/
def hyphenated (name : Text) : Text :=
  name.flatMap fun c => if c.isUpper then ['-', c.toLower] else [c]

theorem hyphenated_cons_of_isUpper {c : Char} (capital : c.isUpper = true) (rest : Text) :
    hyphenated (c :: rest) = '-' :: c.toLower :: hyphenated rest := by
  simp [hyphenated, capital]

theorem hyphenated_cons {c : Char} (noCapital : c.isUpper = false) (rest : Text) :
    hyphenated (c :: rest) = c :: hyphenated rest := by
  simp [hyphenated, noCapital]

theorem hyphenated_eq_self {name : Text} (noCapital : name.HasNoCapital) : hyphenated name = name := by
  induction name with
  | nil => rfl
  | cons c rest ih =>
    obtain ⟨first, others⟩ := List.forall_mem_cons.1 noCapital
    rw [hyphenated_cons first, ih others]

/-- Camel case keeps the spelling with hyphens: it writes a capital only in place of a hyphen and the
small letter. -/
theorem hyphenated_camelCase_eq (name : Text) : hyphenated (camelCase name) = hyphenated name := by
  fun_induction camelCase name with
  | case1 => rfl
  | case2 c => rfl
  -- A hyphen and a small letter are taken together, so the walk goes on behind the letter.
  | case3 c d rest hyphen ih =>
    obtain ⟨rfl, small⟩ : c = '-' ∧ d.isLower = true := by simpa using hyphen
    obtain ⟨capital, back⟩ := isUpper_toUpper small
    rw [hyphenated_cons_of_isUpper capital, back, ih, hyphenated_cons (by decide),
      hyphenated_cons (isUpper_of_isLower small)]
  | case4 c d rest _ ih =>
    cases capital : c.isUpper with
    | true => rw [hyphenated_cons_of_isUpper capital, hyphenated_cons_of_isUpper capital, ih]
    | false => rw [hyphenated_cons capital, hyphenated_cons capital, ih]

theorem hyphenated_camelCase {name : Text} (noCapital : name.HasNoCapital) :
    hyphenated (camelCase name) = name := by
  rw [hyphenated_camelCase_eq, hyphenated_eq_self noCapital]

theorem camelCase_inj {name other : Text} (noCapital : name.HasNoCapital)
    (noCapital' : other.HasNoCapital) : camelCase name = camelCase other ↔ name = other := by
  constructor
  · intro same
    rw [← hyphenated_camelCase noCapital, same, hyphenated_camelCase noCapital']
  · exact congrArg camelCase

end Naming

/-! ## Properties of a style sheet -/

namespace Style

def lineDeclarations (sheet : Text) : List Declaration :=
  (Text.lines sheet).filterMap Declaration.parse?

theorem existsUnique_entry {sheet : Text} {d : Declaration}
    (declared : d ∈ lineDeclarations sheet) :
    ∃! value, (Naming.camelCase d.property, value) ∈ sheetEntries sheet :=
  (Table.isMadeOf_ofEntries _).existsUnique (List.mem_map_of_mem (f := Declaration.entry) declared)

/-- A property without capitals is read back from its camel case. So in the object that a style
sheet becomes, where every declaration has one entry, two declarations whose properties have no
capitals share an entry only if they declare the same property. -/
theorem plain_properties_keep_entries (config : Config) (sheet : Text) :
    (∀ property : Text, property.HasNoCapital →
      Naming.hyphenated (Naming.camelCase property) = property) ∧
    Conversion.cssObject.run config sheet = .ok (objectLiteral (sheetEntries sheet)) ∧
    (∀ d ∈ lineDeclarations sheet,
      ∃! value, (Naming.camelCase d.property, value) ∈ sheetEntries sheet) ∧
    ∀ d ∈ lineDeclarations sheet, ∀ other ∈ lineDeclarations sheet,
      Text.HasNoCapital d.property → Text.HasNoCapital other.property →
      ((∃ entry ∈ sheetEntries sheet,
        entry.1 = Naming.camelCase d.property ∧ entry.1 = Naming.camelCase other.property) ↔
        d.property = other.property) := by
  refine ⟨fun _ => Naming.hyphenated_camelCase, rfl, fun _ => existsUnique_entry, ?_⟩
  intro d declared other _ noCapital noCapital'
  rw [← Naming.camelCase_inj noCapital noCapital']
  constructor
  · rintro ⟨entry, _, here, there⟩
    exact here.symm.trans there
  · intro same
    obtain ⟨value, listed, _⟩ := existsUnique_entry declared
    exact ⟨_, listed, rfl, same⟩

/-- Two properties that differ in the hyphens at their start only. -/
theorem leading_hyphens_keep_entries :
    let sheet : Text := "-ms-flex-2: 1\r\n--ms-flex-2 : 2;"
    let d : Declaration := ⟨"-ms-flex-2", "1"⟩
    let other : Declaration := ⟨"--ms-flex-2", "2"⟩
    (d ∈ lineDeclarations sheet ∧ other ∈ lineDeclarations sheet) ∧
      Text.HasNoCapital d.property ∧ Text.HasNoCapital other.property ∧
      sheetEntries sheet = [(↑"MsFlex-2", ↑"1"), (↑"-MsFlex-2", ↑"2")] ∧
      Naming.hyphenated (Naming.camelCase other.property) = other.property ∧
      ¬ ∃ entry ∈ sheetEntries sheet,
        entry.1 = Naming.camelCase d.property ∧ entry.1 = Naming.camelCase other.property := by
  intro sheet d other
  obtain ⟨back, _, _, share⟩ := plain_properties_keep_entries {} sheet
  have declared : d ∈ lineDeclarations sheet ∧ other ∈ lineDeclarations sheet := by
    decide +kernel
  have noCapital : Text.HasNoCapital d.property := by decide
  have noCapital' : Text.HasNoCapital other.property := by decide
  have shared := share d declared.1 other declared.2 noCapital noCapital'
  exact ⟨declared, noCapital, noCapital', by decide +kernel, back other.property noCapital',
    shared.not.2 (by decide)⟩

end Style

end Snippet
