import Snippet.Conversion.Run
import Snippet.Proofs.Schema.Items
import Snippet.Proofs.Text.PropertyKey

/-!
# Fields read back from declarations

In the dialects that declare objects every key is written as a property key, so the line of a field
is one item and shows the field: two declarations are the same text only if they have the same
fields in the same order, whatever the keys are.

In a table declaration a key is written as it stands. There the items of the text are its columns,
and a key in which a comma ends a line has more than one of them. For keys without such a place
there is one column per key, and the fields can be read back as well.
-/

namespace Snippet.Schema

open Text (propertyKey)

theorem typeName_ne (dialect : Dialect) : dialect.typeName .number ≠ dialect.typeName .text := by
  cases dialect with
  | zod | typebox | mongoose => decide
  | sql table =>
    show "INT".toList ≠ "VARCHAR(255)".toList
    decide

theorem typeName_inj {dialect : Dialect} {kind kind' : FieldKind}
    (same : dialect.typeName kind = dialect.typeName kind') : kind = kind' := by
  cases kind <;> cases kind'
  · rfl
  · exact absurd same (typeName_ne dialect)
  · exact absurd same.symm (typeName_ne dialect)
  · rfl

theorem newline_notMem_typeName (dialect : Dialect) (kind : FieldKind) :
    '\n' ∉ dialect.typeName kind := by
  cases dialect with
  | zod | typebox | mongoose => cases kind <;> decide
  | sql table =>
    cases kind with
    | number =>
      show '\n' ∉ "INT".toList
      decide
    | text =>
      show '\n' ∉ "VARCHAR(255)".toList
      decide

/-! ## Objects -/

namespace Dialect

/-- The dialects that declare an object with property keys. -/
def objects : List Dialect :=
  [.zod, .typebox, .mongoose]

theorem line_of_mem_objects {dialect : Dialect} (object : dialect ∈ objects) (field : Field) :
    dialect.line field =
      ' ' :: ' ' :: (propertyKey field.1 ++ ':' :: ' ' :: dialect.typeName field.2) := by
  simp only [objects, List.mem_cons, List.not_mem_nil, or_false] at object
  rcases object with rfl | rfl | rfl <;> simp [line, fieldText]

theorem line_inj_of_mem_objects {dialect : Dialect} (object : dialect ∈ objects)
    {field field' : Field} (same : dialect.line field = dialect.line field') : field = field' := by
  rw [line_of_mem_objects object, line_of_mem_objects object, List.cons.injEq, List.cons.injEq]
    at same
  obtain ⟨keys, rests⟩ := Text.propertyKey_append_inj same.2.2
  exact Prod.ext keys (typeName_inj (List.cons.inj rests).2)

theorem plain_line_of_mem_objects {dialect : Dialect} (object : dialect ∈ objects)
    (field : Field) : ¬ itemBreak <:+: dialect.line field := by
  apply plain_of_newline_notMem
  rw [line_of_mem_objects object]
  simp [Text.newline_notMem_propertyKey, newline_notMem_typeName]

theorem declaration_inj_of_mem_objects {dialect : Dialect} (object : dialect ∈ objects)
    {fields fields' : List Field}
    (same : dialect.declaration fields = dialect.declaration fields') : fields = fields' := by
  -- A line has no line feed, so the lines of fields are the items.
  have plain (fields : List Field) : ∀ line ∈ fields.map dialect.line, ¬ itemBreak <:+: line := by
    simp only [List.forall_mem_map]
    exact fun field _ => plain_line_of_mem_objects object field
  rw [declaration_eq_iff, fieldItems, fieldItems, flatMap_items_of_plain (plain fields),
    flatMap_items_of_plain (plain fields')] at same
  exact List.map_injective_iff.2 (fun _ _ => line_inj_of_mem_objects object) same

end Dialect

/-! ## Tables -/

theorem line_sql (table : Text) (field : Field) :
    (Dialect.sql table).line field =
      ' ' :: ' ' :: (field.1 ++ ' ' :: (Dialect.sql table).typeName field.2) := by
  simp [Dialect.line, Dialect.fieldText]

theorem getLast?_column (table key : Text) (kind : FieldKind) :
    (key ++ ' ' :: (Dialect.sql table).typeName kind).getLast? =
      some (if kind = .number then 'T' else ')') := by
  have last : ((Dialect.sql table).typeName kind).getLast? =
      some (if kind = .number then 'T' else ')') := by
    cases kind <;> rfl
  rw [List.getLast?_append, List.getLast?_cons, last]
  rfl

theorem line_sql_inj {table : Text} {field field' : Field}
    (same : (Dialect.sql table).line field = (Dialect.sql table).line field') : field = field' := by
  obtain ⟨key, kind⟩ := field
  obtain ⟨key', kind'⟩ := field'
  simp only [line_sql, List.cons.injEq, true_and] at same
  -- The last character tells the type, and what is before the type is the key.
  have last := congrArg List.getLast? same
  rw [getLast?_column, getLast?_column] at last
  have kinds : kind = kind' := by
    cases kind <;> cases kind' <;> simp_all
  subst kinds
  rw [List.append_cancel_right_eq] at same
  rw [same]

/-- A comma ends a line in a column exactly if it does so in the key. -/
theorem itemBreak_infix_line_sql_iff {table : Text} {field : Field} :
    itemBreak <:+: (Dialect.sql table).line field ↔ itemBreak <:+: field.1 := by
  have notBlank (t : Text) : itemBreak <:+: ' ' :: t ↔ itemBreak <:+: t := by
    simp [List.infix_cons_iff, itemBreak]
  have notType : ¬ itemBreak <:+: (Dialect.sql table).typeName field.2 :=
    plain_of_newline_notMem (newline_notMem_typeName _ _)
  rw [line_sql, notBlank, notBlank, List.infix_append_iff, notBlank]
  constructor
  · rintro (inKey | inType | ⟨start, ending, cut, atEnd, atStart⟩)
    · exact inKey
    · exact absurd inType notType
    · -- Behind the key comes a blank, with which no ending of the break starts.
      cases ending with
      | nil =>
        rw [cut, List.append_nil]
        exact atEnd.isInfix
      | cons c rest =>
        obtain rfl : c = ' ' := (List.cons_prefix_cons.1 atStart).1
        have blank : ' ' ∈ itemBreak := cut ▸ List.mem_append_right start List.mem_cons_self
        exact absurd blank (by decide)
  · exact Or.inl

/-- The columns that a table declaration shows: the items between its first and its last line. -/
def columns (table text : Text) : List Text :=
  match (Text.dropStart? ((Dialect.sql table).opening ++ ['\n']) text).bind
      (Text.dropEnding? ('\n' :: (Dialect.sql table).closing)) with
  | some body => items body
  | none => []

theorem columns_declaration (table : Text) (fields : List Field) :
    columns table ((Dialect.sql table).declaration fields) =
      (Dialect.sql table).fieldItems fields := by
  by_cases empty : fields = []
  -- Without fields there is no line feed behind the opening.
  · have noStart : Text.dropStart? ((Dialect.sql table).opening ++ ['\n'])
        ((Dialect.sql table).declaration fields) = none := by
      rw [Option.eq_none_iff_forall_ne_some]
      intro rest found
      rw [Text.dropStart?_eq_some_iff, empty, Dialect.declaration_nil, List.append_assoc,
        List.append_cancel_left_eq] at found
      exact Dialect.closing_ne_newline _ rest found
    rw [columns, noStart, Dialect.fieldItems_eq_nil_iff.2 empty]
    rfl
  · have start : Text.dropStart? ((Dialect.sql table).opening ++ ['\n'])
        ((Dialect.sql table).declaration fields) =
          some (Text.join itemBreak (fields.map (Dialect.sql table).line) ++
            '\n' :: (Dialect.sql table).closing) := by
      rw [Text.dropStart?_eq_some_iff, Dialect.declaration_of_ne_nil _ empty, List.append_assoc]
      rfl
    rw [columns, start, Option.bind_some, Text.dropEnding?_eq_some_iff.2 rfl]
    exact items_join (by simpa using empty)

theorem length_fieldItems_sql_iff {table : Text} {fields : List Field} :
    ((Dialect.sql table).fieldItems fields).length = fields.length ↔
      ∀ field ∈ fields, ¬ itemBreak <:+: field.1 := by
  rw [Dialect.fieldItems, ← List.length_map (Dialect.sql table).line, length_flatMap_items_eq_iff,
    List.forall_mem_map]
  simp only [itemBreak_infix_line_sql_iff]

theorem fieldItems_sql_inj {table : Text} {fields fields' : List Field}
    (plain : ∀ field ∈ fields, ¬ itemBreak <:+: field.1)
    (plain' : ∀ field ∈ fields', ¬ itemBreak <:+: field.1)
    (same : (Dialect.sql table).fieldItems fields = (Dialect.sql table).fieldItems fields') :
    fields = fields' := by
  have oneItem {fields : List Field} (plain : ∀ field ∈ fields, ¬ itemBreak <:+: field.1) :
      (Dialect.sql table).fieldItems fields = fields.map (Dialect.sql table).line := by
    apply flatMap_items_of_plain
    simpa only [List.forall_mem_map, itemBreak_infix_line_sql_iff] using plain
  rw [oneItem plain, oneItem plain'] at same
  exact List.map_injective_iff.2 (fun _ _ => line_sql_inj) same

/-! ## Conversions -/

theorem ok_of_toOption {ε α : Type} {result : Except ε α} {value : α}
    (succeeded : result.toOption = some value) : result = .ok value := by
  cases result with
  | ok found => rw [Option.some.inj succeeded]
  | error e => contradiction

theorem declareSchema_eq_ok_iff {dialect : Dialect} {input text : Text} :
    declareSchema dialect input = .ok text ↔
      ∃ members, readObject input = .ok members ∧
        dialect.declaration (classify members) = text := by
  rw [declareSchema]
  cases readObject input with
  | ok members => simp [Except.map]
  | error e => simp [Except.map]

theorem run_eq_declareSchema {c : Conversion} (object : c ∈ [Conversion.zod, .typebox, .mongoose]) :
    ∃ dialect ∈ Dialect.objects, ∀ config input, c.run config input = declareSchema dialect input := by
  simp only [List.mem_cons, List.not_mem_nil, or_false] at object
  rcases object with rfl | rfl | rfl <;> exact ⟨_, by decide, fun _ _ => rfl⟩

/-- Two object declarations are the same text exactly if the keys and kinds of their fields are the
same in the same order. No key can look like another field or like the end of the declaration. -/
theorem object_determines_fields {c : Conversion}
    (object : c ∈ [Conversion.zod, .typebox, .mongoose]) {config config' : Config}
    {input input' text text' : Text} (written : c.run config input = .ok text)
    (written' : c.run config' input' = .ok text') :
    ∃ members members', readObject input = .ok members ∧ readObject input' = .ok members' ∧
      (text = text' ↔ classify members = classify members') := by
  obtain ⟨dialect, listed, run⟩ := run_eq_declareSchema object
  rw [run, declareSchema_eq_ok_iff] at written written'
  obtain ⟨members, read, rfl⟩ := written
  obtain ⟨members', read', rfl⟩ := written'
  exact ⟨members, members', read, read', Dialect.declaration_inj_of_mem_objects listed,
    congrArg dialect.declaration⟩

/-- A key that looks like the end of one field and the start of another stays one field. -/
theorem imitated_field_kept_apart :
    let input : Text := "\x7b\"a: z.number(),\\n  b\":1\x7d"
    let input' : Text := "\x7b\"a\":1,\"b\":1\x7d"
    let text : Text := "const schema = z.object(\x7b\n  \"a: z.number(),\\n  b\": z.number()\n\x7d);"
    let text' : Text := "const schema = z.object(\x7b\n  a: z.number(),\n  b: z.number()\n\x7d);"
    Conversion.zod.run {} input = .ok text ∧ Conversion.zod.run {} input' = .ok text' ∧
      ∃ members members', readObject input = .ok members ∧ readObject input' = .ok members' ∧
        (text = text' ↔ classify members = classify members') := by
  intro input input' text text'
  have written : Conversion.zod.run {} input = .ok text := ok_of_toOption (by decide +kernel)
  have written' : Conversion.zod.run {} input' = .ok text' := ok_of_toOption (by decide +kernel)
  exact ⟨written, written', object_determines_fields (by decide) written written'⟩

/-- Two table declarations are the same text exactly if their fields have the same columns. A
declaration has one column per key exactly if no comma ends a line in a key, and the keys and kinds
of such declarations can be read back. -/
theorem table_determines_columns {config : Config} {input input' text text' : Text}
    (written : Conversion.sql.run config input = .ok text)
    (written' : Conversion.sql.run config input' = .ok text') :
    ∃ members members', readObject input = .ok members ∧ readObject input' = .ok members' ∧
      (text = text' ↔ (Dialect.sql config.sqlTableName).fieldItems (classify members) =
        (Dialect.sql config.sqlTableName).fieldItems (classify members')) ∧
      ((columns config.sqlTableName text).length = members.length ↔
        ∀ member ∈ members, ¬ itemBreak <:+: member.1) ∧
      ((∀ member ∈ members, ¬ itemBreak <:+: member.1) →
        (∀ member ∈ members', ¬ itemBreak <:+: member.1) → text = text' →
        classify members = classify members') := by
  obtain ⟨members, read, rfl⟩ := declareSchema_eq_ok_iff.1 written
  obtain ⟨members', read', rfl⟩ := declareSchema_eq_ok_iff.1 written'
  have keys (members : Json.Members) : (∀ member ∈ members, ¬ itemBreak <:+: member.1) ↔
      ∀ field ∈ classify members, ¬ itemBreak <:+: field.1 := by
    rw [classify, List.forall_mem_map]
  refine ⟨members, members', read, read', Dialect.declaration_eq_iff, ?_, ?_⟩
  · rw [columns_declaration, keys, ← length_fieldItems_sql_iff, classify, List.length_map]
  · rw [keys, keys]
    intro plain plain' same
    exact fieldItems_sql_inj plain plain' (Dialect.declaration_eq_iff.1 same)

/-- A comma inside a key is no break between columns. -/
theorem comma_in_key_is_one_column :
    let input : Text := "\x7b\"a INT, b\":1\x7d"
    let input' : Text := "\x7b\"a\":1,\"b\":1\x7d"
    let text : Text := "CREATE TABLE my_table (\n  a INT, b INT\n);"
    let text' : Text := "CREATE TABLE my_table (\n  a INT,\n  b INT\n);"
    Conversion.sql.run {} input = .ok text ∧ Conversion.sql.run {} input' = .ok text' ∧
      ∃ members members', readObject input = .ok members ∧ readObject input' = .ok members' ∧
        (text = text' ↔ (Dialect.sql "my_table").fieldItems (classify members) =
          (Dialect.sql "my_table").fieldItems (classify members')) ∧
        ((columns "my_table" text).length = members.length ↔
          ∀ member ∈ members, ¬ itemBreak <:+: member.1) ∧
        ((∀ member ∈ members, ¬ itemBreak <:+: member.1) →
          (∀ member ∈ members', ¬ itemBreak <:+: member.1) → text = text' →
          classify members = classify members') := by
  intro input input' text text'
  have written : Conversion.sql.run {} input = .ok text := ok_of_toOption (by decide +kernel)
  have written' : Conversion.sql.run {} input' = .ok text' := ok_of_toOption (by decide +kernel)
  exact ⟨written, written', table_determines_columns written written'⟩

/-- A key in which a comma ends a line gives a declaration two columns, and the same text as an
object with two keys. -/
theorem key_adds_column :
    let input : Text := "\x7b\"a INT,\\n  b\":1\x7d"
    let input' : Text := "\x7b\"a\":1,\"b\":1\x7d"
    let text : Text := "CREATE TABLE my_table (\n  a INT,\n  b INT\n);"
    Conversion.sql.run {} input = .ok text ∧ Conversion.sql.run {} input' = .ok text ∧
      (readObject input).map classify = .ok [("a INT,\n  b", .number)] ∧
      (readObject input').map classify = .ok [("a", .number), ("b", .number)] := by
  refine ⟨ok_of_toOption ?_, ok_of_toOption ?_, ok_of_toOption ?_, ok_of_toOption ?_⟩ <;>
    decide +kernel

end Snippet.Schema
