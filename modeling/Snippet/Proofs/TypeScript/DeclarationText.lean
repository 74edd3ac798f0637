import Snippet.Proofs.Text.PropertyKey
import Snippet.Proofs.TypeScript.NameOrigin
import Snippet.Proofs.TypeScript.TypeText

/-!
# Reading declarations back

The text of the declarations for a document determines them. The line of a field shows its key and
its type, since a written key is one word or a literal and no type has a semicolon; an interface
ends at the brace where no line of a field starts; and an alias and an interface begin with different
words. Whatever stands in a key, it makes no field, no end of an interface and no declaration.
-/

namespace Snippet.TypeScript

open Naming (IsName IsHint isNameChar)
open Text (StartsAlike propertyKey)

/-! ## Fields -/

theorem fieldLine_append (field : Text × TypeExpr) (rest : Text) :
    fieldLine field ++ rest =
      ' ' :: ' ' ::
        (propertyKey field.1 ++ ':' :: ' ' :: (field.2.text ++ ';' :: '\n' :: rest)) := by
  simp [fieldLine]

theorem fieldLine_append_inj {field field' : Text × TypeExpr} {rest rest' : Text}
    (built : field.2.Over IsName) (built' : field'.2.Over IsName)
    (same : fieldLine field ++ rest = fieldLine field' ++ rest') :
    field = field' ∧ rest = rest' := by
  rw [fieldLine_append, fieldLine_append, List.cons.injEq, List.cons.injEq] at same
  obtain ⟨keys, behindKeys⟩ := Text.propertyKey_append_inj same.2.2
  obtain ⟨texts, behindTypes⟩ := Text.append_cons_inj (semicolon_notMem_text built)
    (semicolon_notMem_text built') (List.cons.inj behindKeys).2
  exact ⟨Prod.ext keys (text_inj built built' texts), (List.cons.inj behindTypes).2⟩

/-- The lines of fields end at the first line that starts with a brace. -/
theorem fieldLines_append_inj {fields fields' : Fields} {rest rest' : Text}
    (built : ∀ field ∈ fields, field.2.Over IsName)
    (built' : ∀ field ∈ fields', field.2.Over IsName)
    (same : fields.flatMap fieldLine ++ '\x7d' :: rest =
      fields'.flatMap fieldLine ++ '\x7d' :: rest') : fields = fields' := by
  induction fields generalizing fields' with
  | nil =>
    cases fields' with
    | nil => rfl
    -- A line of a field starts with a blank and not with the brace.
    | cons field' others' => simp [fieldLine] at same
  | cons field others ih =>
    cases fields' with
    | nil => simp [fieldLine] at same
    | cons field' others' =>
      obtain ⟨here, there⟩ := List.forall_mem_cons.1 built
      obtain ⟨here', there'⟩ := List.forall_mem_cons.1 built'
      rw [List.flatMap_cons, List.flatMap_cons, List.append_assoc, List.append_assoc] at same
      obtain ⟨rfl, behind⟩ := fieldLine_append_inj here here' same
      rw [ih there there' behind]

/-! ## Single declarations -/

theorem aliasText_append (entry : Text × TypeExpr) (rest : Text) :
    aliasText entry ++ rest =
      "type " ++ (entry.1 ++ ' ' :: '=' :: ' ' :: (entry.2.text ++ ';' :: rest)) := by
  show "type " ++ entry.1 ++ " = " ++ entry.2.text ++ ";" ++ rest = _
  simp

theorem Interface.text_append (i : Interface) (rest : Text) :
    i.text ++ rest = "interface " ++
      (i.name ++ ' ' :: '\x7b' :: '\n' :: (i.fields.flatMap fieldLine ++ '\x7d' :: rest)) := by
  show "interface " ++ i.name ++ " \x7b\n" ++ i.fields.flatMap fieldLine ++ "\x7d" ++ rest = _
  simp

abbrev Declaration :=
  (Text × TypeExpr) ⊕ Interface

namespace Declaration

def text : Declaration → Text
  | .inl entry => aliasText entry
  | .inr i => i.text

/-- Whether a declaration has a name of name characters and types that are built from names. The
name itself may be a word of the type language, as that of a root may. -/
def Readable : Declaration → Prop
  | .inl entry => (∀ c ∈ entry.1, isNameChar c = true) ∧ entry.2.Over IsName
  | .inr i => (∀ c ∈ i.name, isNameChar c = true) ∧ ∀ field ∈ i.fields, field.2.Over IsName

theorem text_ne_nil (d : Declaration) : d.text ≠ [] := by
  intro empty
  cases d with
  | inl entry =>
    have written := aliasText_append entry []
    rw [show aliasText entry = [] from empty] at written
    simp at written
  | inr i =>
    have written := i.text_append []
    rw [show i.text = [] from empty] at written
    simp at written

theorem blank_notMem {name : Text} (chars : ∀ c ∈ name, isNameChar c = true) : ' ' ∉ name :=
  fun member => absurd (chars ' ' member) (by decide)

theorem alias_inj {entry entry' : Text × TypeExpr} (readable : Readable (.inl entry))
    (readable' : Readable (.inl entry')) {rest rest' : Text}
    (same : aliasText entry ++ rest = aliasText entry' ++ rest') : entry = entry' := by
  rw [aliasText_append, aliasText_append, List.append_cancel_left_eq] at same
  obtain ⟨names, behind⟩ :=
    Text.append_cons_inj (blank_notMem readable.1) (blank_notMem readable'.1) same
  rw [List.cons.injEq, List.cons.injEq] at behind
  obtain ⟨texts, _⟩ := Text.append_cons_inj (semicolon_notMem_text readable.2)
    (semicolon_notMem_text readable'.2) behind.2.2
  exact Prod.ext names (text_inj readable.2 readable'.2 texts)

theorem interface_inj {i i' : Interface} (readable : Readable (.inr i))
    (readable' : Readable (.inr i')) {rest rest' : Text}
    (same : i.text ++ rest = i'.text ++ rest') : i = i' := by
  rw [Interface.text_append, Interface.text_append, List.append_cancel_left_eq] at same
  obtain ⟨names, behind⟩ :=
    Text.append_cons_inj (blank_notMem readable.1) (blank_notMem readable'.1) same
  rw [List.cons.injEq, List.cons.injEq] at behind
  have fields := fieldLines_append_inj readable.2 readable'.2 behind.2.2
  cases i
  cases i'
  exact congrArg₂ Interface.mk names fields

theorem alias_ne_interface (entry : Text × TypeExpr) (i : Interface) (rest rest' : Text) :
    aliasText entry ++ rest ≠ i.text ++ rest' := by
  rw [aliasText_append, Interface.text_append]
  simp

theorem eq_of_startsAlike {d d' : Declaration} (readable : d.Readable) (readable' : d'.Readable)
    (alike : StartsAlike d.text d'.text) : d = d' := by
  obtain ⟨rest, rest', same⟩ := Text.startsAlike_iff_append.1 alike
  cases d with
  | inl entry =>
    cases d' with
    | inl entry' => rw [alias_inj readable readable' same]
    | inr i' => exact absurd same (alias_ne_interface entry i' rest rest')
  | inr i =>
    cases d' with
    | inl entry' => exact absurd same.symm (alias_ne_interface entry' i rest' rest)
    | inr i' => rw [interface_inj readable readable' same]

end Declaration

/-! ## All declarations -/

namespace Declarations

def list (d : Declarations) : List Declaration :=
  d.root.toList.map .inl ++ d.interfaces.map .inr

def Readable (d : Declarations) : Prop :=
  ∀ declaration ∈ d.list, declaration.Readable

theorem readable_iff {d : Declarations} :
    d.Readable ↔
      (∀ entry ∈ d.root, Declaration.Readable (.inl entry)) ∧
        ∀ i ∈ d.interfaces, Declaration.Readable (.inr i) := by
  rw [Readable, list, List.forall_mem_append, List.forall_mem_map, List.forall_mem_map]
  simp only [Option.mem_toList, Option.mem_def]

theorem text_eq_join (d : Declarations) :
    d.text = Text.join "\n\n" (d.list.map Declaration.text) := by
  simp [text, list, Declaration.text, Function.comp_def]

theorem list_inj {d d' : Declarations} (same : d.list = d'.list) : d = d' := by
  -- Aliases and interfaces are sorted out again by their kind.
  have interfaces := congrArg (List.filterMap Sum.getRight?) same
  have roots := congrArg (List.filterMap Sum.getLeft?) same
  simp only [list, List.filterMap_append, List.filterMap_map, Function.comp_def,
    Sum.getRight?_inl, Sum.getRight?_inr, Sum.getLeft?_inl, Sum.getLeft?_inr, List.filterMap_none,
    List.filterMap_some, List.nil_append, List.append_nil] at interfaces roots
  have root : d.root = d'.root := by simpa using congrArg List.head? roots
  cases d
  cases d'
  exact congrArg₂ Declarations.mk root interfaces

/-- Declarations that can be read one by one can be read from the whole text. -/
theorem text_inj {d d' : Declarations} (readable : d.Readable) (readable' : d'.Readable)
    (same : d.text = d'.text) : d = d' := by
  rw [text_eq_join, text_eq_join] at same
  exact list_inj (Text.join_map_inj Declaration.text_ne_nil
    (fun a inList b inList' => Declaration.eq_of_startsAlike (readable a inList)
      (readable' b inList')) same)

end Declarations

/-! ## Documents -/

theorem readable_of_isName {s : Inference} (consistent : Consistent s)
    (names : ∀ name ∈ s.names, IsName name) :
    ∀ i ∈ s.interfaces, Declaration.Readable (.inr i) := by
  intro i listed
  exact ⟨(names i.name (List.mem_map_of_mem listed)).chars,
    fun field inFields => (consistent.declared i listed field inFields).mono names⟩

/-- The interface of a root object has the root's name, which may be a word of the type language;
no type mentions it. -/
theorem readable_rootObject {root : Text} (valid : Text.isIdentifier root = true)
    (members : List (Text × Json)) :
    ∀ i ∈ (visitRoot root (.object members)).2.interfaces, Declaration.Readable (.inr i) := by
  have name : (({} : Inference).openObject root).1 = root :=
    freshName_nil (Text.ne_nil_of_isIdentifier valid)
  obtain ⟨consistent, built⟩ := fieldTypes_consistent members (Consistent.start.openObject root)
  have names := fieldTypes_isName root members
  have inside := readable_of_isName consistent names
  obtain ⟨added, visit⟩ := fieldTypes_visit members (({} : Inference).openObject root).2
  intro i listed
  change i ∈ (typeOf root (.object members) {}).2.interfaces at listed
  rw [typeOf_object] at listed
  -- Only a new interface for the root itself does not come from inside it.
  rcases close_cases _ visit with ⟨_, _, _, closed⟩ | ⟨_, _, closed⟩
  · rw [interfaces_of_known visit closed] at listed
    exact inside i listed
  · rcases (mem_interfaces_of_new visit closed).1 listed with rfl | old
    · rw [name]
      exact ⟨Naming.isNameChar_of_isIdentifier valid,
        fun field inFields => (built field inFields).mono names⟩
    · exact inside i old

/-- An alias has the root's name, and no hint does. -/
theorem readable_rootAlias {root : Text} (valid : Text.isIdentifier root = true) {document : Json}
    (other : ∀ members, document ≠ .object members) :
    (infer root document).Readable := by
  have names := visitRoot_isName valid other
  obtain ⟨consistent, built⟩ := typeOf_consistent (rootHint root document) document .start
  rw [Declarations.readable_iff, infer_root_of_ne_object other, infer_interfaces]
  refine ⟨?_, readable_of_isName consistent names⟩
  intro entry given
  obtain rfl := Option.some.inj given
  exact ⟨Naming.isNameChar_of_isIdentifier valid, built.mono names⟩

theorem readable_infer {root : Text} (valid : Text.isIdentifier root = true) (document : Json) :
    (infer root document).Readable := by
  cases document with
  | null | bool | number | string | array => exact readable_rootAlias valid nofun
  | object members =>
    rw [Declarations.readable_iff]
    exact ⟨nofun, readable_rootObject valid members⟩

/-- The text that is written for a document belongs to its declarations only: two documents with one
text have the same alias and the same interfaces in the same order, with the same keys and types, and
no other declarations that can be read have this text. -/
theorem declarations_eq_iff_text_eq {root : Text} (valid : Text.isIdentifier root = true)
    (document : Json) :
    (∀ root' document', Text.isIdentifier root' = true →
        ((infer root document).text = (infer root' document').text ↔
          infer root document = infer root' document')) ∧
      ∀ d : Declarations, d.Readable →
        ((infer root document).text = d.text ↔ infer root document = d) := by
  have readable := readable_infer valid document
  constructor
  · intro root' document' valid'
    exact ⟨Declarations.text_inj readable (readable_infer valid' document'),
      congrArg Declarations.text⟩
  · intro d readable'
    exact ⟨Declarations.text_inj readable readable', congrArg Declarations.text⟩

/-- A key that looks like a field and the start of another one, and a key that looks like the end of
an interface and the start of another one. -/
theorem imitated_lines_kept_apart :
    let root : Text := "RootObject"
    let document (key : Text) : Json := .object [(key, .null)]
    let two : Json := .object [("a", .null), ("b", .null)]
    let more : Declarations := ⟨none, [⟨root, [("a", .null)]⟩, ⟨"B", [("b", .null)]⟩]⟩
    Text.isIdentifier root = true ∧ more.Readable ∧
      (infer root (document "a: null;\n  b")).text ≠ (infer root two).text ∧
      (infer root (document "a: null;\n\x7d\n\ninterface B \x7b\n  b")).text ≠ more.text := by
  intro root document two more
  have valid : Text.isIdentifier root = true := by decide
  have readable : more.Readable := by
    refine Declarations.readable_iff.2 ⟨nofun, List.forall_mem_cons.2 ⟨?_, ?_⟩⟩
    · exact ⟨List.all_eq_true.1 (by decide), List.forall_mem_singleton.2 .null⟩
    · exact List.forall_mem_singleton.2
        ⟨List.all_eq_true.1 (by decide), List.forall_mem_singleton.2 .null⟩
  refine ⟨valid, readable, ?_, ?_⟩
  · intro same
    have equal := ((declarations_eq_iff_text_eq valid _).1 root two valid).1 same
    exact absurd (congrArg (·.interfaces.map (·.fields.length)) equal) (by decide)
  · intro same
    have equal := ((declarations_eq_iff_text_eq valid _).2 more readable).1 same
    exact absurd (congrArg (·.interfaces.length) equal) (by decide)

end Snippet.TypeScript
