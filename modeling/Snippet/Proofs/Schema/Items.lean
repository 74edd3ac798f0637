import Mathlib.Data.List.Basic
import Snippet.Schema.Declaration

/-!
# Items of a declaration

The fields of a declaration stand on lines of their own with commas between them. Read without
knowing the fields, such a text is cut wherever a comma ends a line; the pieces are its items. Two
declarations of one dialect are the same text exactly if they have the same items, and a line is an
item by itself exactly if no comma ends a line inside it.
-/

namespace Snippet.Schema

def itemBreak : Text := ",\n"

/-- The items of a text: what stands between commas at the ends of lines. -/
def items : Text → List Text
  | [] => [[]]
  | [c] => [[c]]
  | c :: d :: rest =>
    if c = ',' ∧ d = '\n' then [] :: items rest
    else (items (d :: rest)).modifyHead (c :: ·)

theorem items_ne_nil (t : Text) : items t ≠ [] := by
  fun_induction items t with
  | case1 | case2 => simp
  | case3 => simp
  | case4 c d rest _ ih => simpa using ih

/-! ## Cutting and joining -/

theorem join_items (t : Text) : Text.join itemBreak (items t) = t := by
  fun_induction items t with
  | case1 | case2 => exact List.intercalate_singleton
  | case3 c d rest atBreak ih =>
    obtain ⟨rfl, rfl⟩ := atBreak
    rw [Text.join] at ih ⊢
    rw [List.intercalate_cons_of_ne_nil (items_ne_nil rest), ih]
    rfl
  | case4 c d rest _ ih =>
    obtain ⟨first, others, shape⟩ := List.exists_cons_of_ne_nil (items_ne_nil (d :: rest))
    rw [shape, Text.join] at ih
    rw [shape, List.modifyHead_cons, Text.join, ← ih]
    cases others with
    | nil => simp
    | cons next others => simp [List.intercalate_cons_cons]

theorem items_append_break (s t : Text) : items (s ++ itemBreak ++ t) = items s ++ items t := by
  fun_induction items s with
  | case1 => rfl
  | case2 c =>
    -- A single character is no comma at the end of a line, and the break begins behind it.
    show items (c :: ',' :: '\n' :: t) = _
    rw [items, if_neg (by simp), items, if_pos (by simp)]
    rfl
  | case3 c d rest atBreak ih =>
    obtain ⟨rfl, rfl⟩ := atBreak
    show items (',' :: '\n' :: (rest ++ itemBreak ++ t)) = _
    rw [items, if_pos (by simp), ih]
    rfl
  | case4 c d rest inside ih =>
    show items (c :: d :: (rest ++ itemBreak ++ t)) = _
    obtain ⟨first, others, shape⟩ := List.exists_cons_of_ne_nil (items_ne_nil (d :: rest))
    rw [items, if_neg inside, ← List.cons_append, ← List.cons_append, ih, shape]
    rfl

theorem items_join {parts : List Text} (filled : parts ≠ []) :
    items (Text.join itemBreak parts) = parts.flatMap items := by
  induction parts with
  | nil => contradiction
  | cons part rest ih =>
    rw [Text.join] at ih ⊢
    cases rest with
    | nil => simp
    | cons next others =>
      rw [List.intercalate_cons_cons, items_append_break, ih (by simp)]
      rfl

theorem join_eq_join_iff {parts parts' : List Text} (filled : parts ≠ []) (filled' : parts' ≠ []) :
    Text.join itemBreak parts = Text.join itemBreak parts' ↔
      parts.flatMap items = parts'.flatMap items := by
  rw [← items_join filled, ← items_join filled']
  constructor
  · exact congrArg items
  · intro same
    rw [← join_items (Text.join itemBreak parts), same, join_items]

/-! ## Texts that are one item -/

theorem length_items_eq_one_iff {t : Text} : (items t).length = 1 ↔ ¬ itemBreak <:+: t := by
  fun_induction items t with
  | case1 | case2 => simp [itemBreak, List.infix_cons_iff]
  | case3 c d rest atBreak ih =>
    obtain ⟨rfl, rfl⟩ := atBreak
    have more := List.length_pos_iff.2 (items_ne_nil rest)
    have found : itemBreak <:+: ',' :: '\n' :: rest := (List.prefix_append itemBreak rest).isInfix
    simp only [List.length_cons, found, not_true_eq_false, iff_false]
    omega
  | case4 c d rest inside ih =>
    have notHere : ¬ itemBreak <+: c :: d :: rest := by
      intro start
      simp only [itemBreak, String.reduceToList, List.cons_prefix_cons] at start
      exact inside ⟨start.1.symm, start.2.1.symm⟩
    rw [List.length_modifyHead, ih, List.infix_cons_iff (a := c), or_iff_right notHere]

theorem items_eq_singleton {t : Text} (plain : ¬ itemBreak <:+: t) : items t = [t] := by
  obtain ⟨item, shape⟩ := List.length_eq_one_iff.1 (length_items_eq_one_iff.2 plain)
  have whole := join_items t
  rw [shape, Text.join, List.intercalate_singleton] at whole
  rw [shape, whole]

theorem plain_of_newline_notMem {t : Text} (oneLine : '\n' ∉ t) : ¬ itemBreak <:+: t :=
  fun inside => oneLine (inside.subset (by decide))

theorem flatMap_items_of_plain {parts : List Text} (plain : ∀ part ∈ parts, ¬ itemBreak <:+: part) :
    parts.flatMap items = parts := by
  induction parts with
  | nil => rfl
  | cons part rest ih =>
    obtain ⟨here, there⟩ := List.forall_mem_cons.1 plain
    rw [List.flatMap_cons, items_eq_singleton here, ih there]
    rfl

theorem length_flatMap_items_eq_iff {parts : List Text} :
    (parts.flatMap items).length = parts.length ↔ ∀ part ∈ parts, ¬ itemBreak <:+: part := by
  -- Every part has an item at least, so one part with more of them cannot be made up for.
  have atLeast (parts : List Text) : parts.length ≤ (parts.flatMap items).length := by
    induction parts with
    | nil => simp
    | cons part rest ih =>
      have more := List.length_pos_iff.2 (items_ne_nil part)
      rw [List.flatMap_cons, List.length_append, List.length_cons]
      omega
  induction parts with
  | nil => simp
  | cons part rest ih =>
    have more := List.length_pos_iff.2 (items_ne_nil part)
    have others := atLeast rest
    rw [List.forall_mem_cons, ← length_items_eq_one_iff, List.flatMap_cons, List.length_append,
      List.length_cons]
    constructor
    · intro same
      exact ⟨by omega, ih.1 (by omega)⟩
    · rintro ⟨one, ones⟩
      have same := ih.2 ones
      omega

/-! ## Declarations -/

namespace Dialect

/-- The line of a field, without what separates it from the next one. -/
def line (dialect : Dialect) (field : Field) : Text :=
  "  " ++ dialect.fieldText field

def fieldItems (dialect : Dialect) (fields : List Field) : List Text :=
  (fields.map dialect.line).flatMap items

theorem declaration_nil (dialect : Dialect) :
    dialect.declaration [] = dialect.opening ++ dialect.closing :=
  rfl

theorem declaration_of_ne_nil (dialect : Dialect) {fields : List Field} (filled : fields ≠ []) :
    dialect.declaration fields = dialect.opening ++
      ('\n' :: (Text.join itemBreak (fields.map dialect.line) ++ '\n' :: dialect.closing)) := by
  rw [declaration, if_neg (by simpa using filled)]
  simp only [List.append_assoc]
  rfl

theorem closing_ne_newline (dialect : Dialect) (rest : Text) : dialect.closing ≠ '\n' :: rest := by
  cases dialect <;> simp [closing]

theorem fieldItems_eq_nil_iff {dialect : Dialect} {fields : List Field} :
    dialect.fieldItems fields = [] ↔ fields = [] := by
  cases fields <;> simp [fieldItems, items_ne_nil]

theorem declaration_eq_iff {dialect : Dialect} {fields fields' : List Field} :
    dialect.declaration fields = dialect.declaration fields' ↔
      dialect.fieldItems fields = dialect.fieldItems fields' := by
  by_cases empty : fields = [] <;> by_cases empty' : fields' = []
  · simp [empty, empty']
  · rw [empty, declaration_nil, declaration_of_ne_nil dialect empty', List.append_cancel_left_eq]
    have different : dialect.fieldItems fields' ≠ [] := fieldItems_eq_nil_iff.not.2 empty'
    exact ⟨fun same => absurd same (dialect.closing_ne_newline _),
      fun same => absurd same.symm different⟩
  · rw [empty', declaration_nil, declaration_of_ne_nil dialect empty, List.append_cancel_left_eq]
    have different : dialect.fieldItems fields ≠ [] := fieldItems_eq_nil_iff.not.2 empty
    exact ⟨fun same => absurd same.symm (dialect.closing_ne_newline _),
      fun same => absurd same different⟩
  · rw [declaration_of_ne_nil dialect empty, declaration_of_ne_nil dialect empty',
      List.append_cancel_left_eq, List.cons.injEq, List.append_cancel_right_eq, fieldItems,
      fieldItems, join_eq_join_iff (by simpa using empty) (by simpa using empty')]
    simp

end Dialect

end Snippet.Schema
