import Snippet.Proofs.TypeScript.NameOrigin

/-!
# Names of interfaces that are identifiers

A key of ASCII characters names a type by an identifier, if it has a letter at all: the name starts
with the capital of that letter, and letters and digits are all that follows. Singulars and numbers
that are put behind a name do not change this, and neither does the default name for a key without
letters. So the interfaces of a document with such keys are named by identifiers.
-/

namespace Snippet

/-! ## Identifiers -/

namespace Text

def IsAscii (t : Text) : Prop :=
  ∀ c ∈ t, c.toNat < 0x80

instance (t : Text) : Decidable (IsAscii t) :=
  decidable_of_iff (t.all (·.toNat < 0x80) = true) (by simp [IsAscii])

end Text

open Text (IsAscii isIdentifier isIdentifierPart)

/-! ## Names of ASCII keys -/

namespace Unicode

theorem isAscii_upper (c : Char) (ascii : c.toNat < 0x80) : IsAscii (upper c) :=
  forall_ascii (by decide +kernel) c ascii

theorem isIdentifier_upper (c : Char) (ascii : c.toNat < 0x80) :
    isAlphabetic c = true → isIdentifier (upper c) = true :=
  forall_ascii (by decide +kernel) c ascii

end Unicode

namespace Naming

/-- A text from which identifiers can be made: an identifier itself, or nothing. -/
def IsIdentifierHint (t : Text) : Prop :=
  t = [] ∨ isIdentifier t = true

theorem isIdentifierPart_of_isNameChar {c : Char} (ascii : c.toNat < 0x80)
    (known : isNameChar c = true) : isIdentifierPart c = true := by
  simpa [isNameChar, Nat.not_le.2 ascii] using known

theorem isAscii_capitalizeRuns {key : Text} (ascii : IsAscii key) (starts : Bool) :
    IsAscii (capitalizeRuns starts key) := by
  intro d member
  obtain ⟨c, listed, _, rfl | capital⟩ := exists_of_mem_capitalizeRuns member
  · exact ascii d listed
  · exact Unicode.isAscii_upper c (ascii c listed) d capital

theorem isIdentifierHint_typeName {key : Text} (ascii : IsAscii key) :
    IsIdentifierHint (typeName key) := by
  rcases typeName_cases key with empty | ⟨c, rest, letter, kept, name⟩
  · exact Or.inl empty
  · right
    have keptAscii : IsAscii (c :: rest) :=
      fun d member => isAscii_capitalizeRuns ascii true d (kept member)
    obtain ⟨first, others⟩ := List.forall_mem_cons.1 keptAscii
    -- The name starts at the first letter; nothing in front of it is kept.
    rw [name]
    refine Text.isIdentifier_append (Unicode.isIdentifier_upper c first letter) ?_
    intro d member
    exact isIdentifierPart_of_isNameChar (others d member)
      (isNameChar_of_mem_capitalizeRuns (kept (List.mem_cons_of_mem c member)))

/-- A singular drops what stands behind a start that is not empty, and perhaps puts a letter there. -/
theorem isIdentifier_singular {name : Text} (identifier : isIdentifier name = true) :
    isIdentifier (singular name) = true := by
  rcases singular_cases name with ⟨stem, filled, plural, shape⟩ | ⟨stem, filled, plural, _, shape⟩ |
    shape
  · rw [plural] at identifier
    have letter : ∀ c ∈ "y".toList, isIdentifierPart c = true := List.all_eq_true.1 (by decide)
    rw [shape]
    exact Text.isIdentifier_append (Text.isIdentifier_of_append filled identifier) letter
  · rw [plural] at identifier
    rw [shape]
    exact Text.isIdentifier_of_append filled identifier
  · rwa [shape]

theorem isIdentifierHint_singular {hint : Text} (isHint : IsIdentifierHint hint) :
    IsIdentifierHint (singular hint) := by
  cases isHint with
  | inl empty =>
    subst empty
    exact Or.inl (by decide)
  | inr identifier => exact Or.inr (isIdentifier_singular identifier)

end Naming

/-! ## Names of interfaces -/

namespace TypeScript

open Naming (IsIdentifierHint)

theorem isIdentifier_baseName {hint : Text} (isHint : IsIdentifierHint hint) :
    isIdentifier (baseName hint) = true := by
  cases isHint with
  | inl empty =>
    subst empty
    decide
  | inr identifier => rwa [baseName_of_ne_nil (Text.ne_nil_of_isIdentifier identifier)]

theorem isIdentifier_numbered {hint : Text} (isHint : IsIdentifierHint hint) (n : Nat) :
    isIdentifier (baseName hint ++ numbered n) = true := by
  refine Text.isIdentifier_append (isIdentifier_baseName isHint) ?_
  intro c inNumber
  simp [isIdentifierPart, isDigit_of_mem_numbered inNumber]

theorem isIdentifier_rootHint {root : Text} (valid : isIdentifier root = true) (document : Json) :
    isIdentifier (rootHint root document) = true := by
  cases document with
  | null | bool | number | string | object => exact valid
  | array elements =>
    have item : ∀ c ∈ "Item".toList, isIdentifierPart c = true := List.all_eq_true.1 (by decide)
    exact Text.isIdentifier_append valid item

/-- In a document with ASCII keys every hint is empty or an identifier, whatever else the keys
are. -/
theorem isIdentifierHint_of_mem_objectHints {root : Text} (valid : isIdentifier root = true)
    {document : Json} (ascii : ∀ key ∈ document.allKeys, IsAscii key) :
    ∀ hint ∈ objectHints (rootHint root document) document, IsIdentifierHint hint :=
  forall_mem_objectHints IsIdentifierHint Naming.isIdentifierHint_singular
    (Or.inr (isIdentifier_rootHint valid document)) document
    fun key listed => Naming.isIdentifierHint_typeName (ascii key listed)

/-- The interfaces of a document are named by identifiers, if the name of the root is one and all
keys are in ASCII. -/
theorem interface_names_are_identifiers {root : Text} (valid : isIdentifier root = true)
    {document : Json} (ascii : ∀ key ∈ document.allKeys, IsAscii key) :
    ∀ i ∈ (infer root document).interfaces, isIdentifier i.name = true := by
  intro i listed
  obtain ⟨hint, inDocument, n, name⟩ := isMadeFrom_of_mem_interfaces listed
  rw [name]
  exact isIdentifier_numbered (isIdentifierHint_of_mem_objectHints valid ascii hint inDocument) n

/-- Keys without letters, a key with a digit in front of its letters, and arrays inside each
other. -/
theorem odd_keys_give_identifiers :
    let root : Text := "$"
    let leaf (key : Text) : Json := .object [(key, .null)]
    let document : Json := .object
      [("", leaf "a"), ("2nd-cities", .array [.array [leaf "b"]]), ("***", leaf "c"),
        ("ss", .array [leaf "d"]), ("Nested", leaf "e")]
    isIdentifier root = true ∧ (∀ key ∈ document.allKeys, IsAscii key) ∧
      (infer root document).interfaces.map Interface.name =
        [↑"$", ↑"Nested", ↑"NdCity", ↑"Nested2", ↑"S", ↑"Nested3"] ∧
      ∀ i ∈ (infer root document).interfaces, isIdentifier i.name = true := by
  intro root leaf document
  have valid : isIdentifier root = true := by decide
  have ascii : ∀ key ∈ document.allKeys, IsAscii key := by decide +kernel
  exact ⟨valid, ascii, by decide +kernel, interface_names_are_identifiers valid ascii⟩

end TypeScript

end Snippet
