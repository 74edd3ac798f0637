import Snippet.Conversion.Run
import Snippet.Proofs.Json.CompactText
import Snippet.Proofs.OrderedTable

/-!
# Schemas of object texts

From the text of an object to its schema in one statement. The members are given as they are
written, keys may be repeated: a schema has a field for every distinct key, where the key first
stands, and the last value that is written for the key decides the type. The four schemas of one
text have the same fields.
-/

namespace Snippet

/-! ## Inputs -/

theorem transform_id (c : Conversion) (config : Config) {input : Text}
    (filled : Text.isBlank input = false) :
    transform c.id config input = c.run config input := by
  simp [transform, lookup, Conversion.ofId?_id, filled]

theorem readJson_compact {value : Json} (shallow : value.height ≤ Json.depthLimit) :
    (value.InRange ∧ readJson (Json.compact value) = .ok value.settled) ∨
      (¬ value.InRange ∧ ∃ fault, readJson (Json.compact value) =
        .error (.malformedJson fault)) := by
  cases Json.readDocument_compact shallow with
  | inl read =>
    refine Or.inl ⟨read.1, ?_⟩
    rw [readJson, Json.read, read.2]
    rfl
  | inr refused =>
    obtain ⟨beyond, fault, refused⟩ := refused
    refine Or.inr ⟨beyond, fault.locate (Json.compact value), ?_⟩
    rw [readJson, Json.read, refused]
    rfl

namespace Schema

/-! ## Fields of written members -/

/-- The fields that members make as they are written: each key once, where it first stands, with
the type of the last value that is written for it. -/
def writtenFields (members : List (Text × Json)) : List Field :=
  (members.map Prod.fst).eraseDups.map fun key =>
    (key, if (members.reverse.lookup key).any Json.isNumber then .number else .text)

theorem classify_ofEntries (members : List (Text × Json)) :
    classify (Table.ofEntries members) = writtenFields members := by
  rw [writtenFields, ← Table.keys_ofEntries, Table.keys, List.map_map, classify]
  apply List.map_congr_left
  intro member listed
  -- No key is repeated in a table that was written, so every entry holds the answer for its key.
  have answer := Table.get?_eq_some_of_mem (Table.nodup_keys_ofEntries members) listed
  rw [Table.get?_ofEntries] at answer
  simp [FieldKind.of, answer]

theorem lookup_settledMembers (key : Text) (members : List (Text × Json)) :
    (Json.settledMembers members).reverse.lookup key =
      (members.reverse.lookup key).map Json.settled := by
  rw [Json.settledMembers_eq_map, ← List.map_reverse]
  -- Only lookups are compared, so the reversed list may be any list.
  generalize members.reverse = written
  induction written with
  | nil => rfl
  | cons member rest ih =>
    rw [List.map_cons, List.lookup_cons, List.lookup_cons, ih]
    split <;> rfl

/-- What happens inside the values makes no difference to the fields. -/
theorem writtenFields_settledMembers (members : List (Text × Json)) :
    writtenFields (Json.settledMembers members) = writtenFields members := by
  have keys : (Json.settledMembers members).map Prod.fst = members.map Prod.fst := by
    simp [Json.settledMembers_eq_map]
  have number : (fun value => Json.isNumber (Json.settled value)) = Json.isNumber :=
    funext Json.isNumber_settled
  simp only [writtenFields, keys, lookup_settledMembers, Option.any_map, number]

/-! ## Conversions -/

theorem readObject_compact {members : List (Text × Json)}
    (shallow : (Json.object members).height ≤ Json.depthLimit) :
    ((Json.object members).InRange ∧ readObject (Json.compact (.object members)) =
        .ok (Table.ofEntries (Json.settledMembers members))) ∨
      (¬ (Json.object members).InRange ∧ ∃ fault, readObject (Json.compact (.object members)) =
        .error (.malformedJson fault)) := by
  rw [readObject]
  cases readJson_compact shallow with
  | inl read =>
    rw [read.2]
    exact Or.inl ⟨read.1, rfl⟩
  | inr refused =>
    obtain ⟨beyond, fault, refused⟩ := refused
    rw [refused]
    exact Or.inr ⟨beyond, fault, rfl⟩

theorem isBlank_compact (members : List (Text × Json)) :
    Text.isBlank (Json.compact (.object members)) = false := by
  have brace : Unicode.isBlank '\x7b' = false := by decide
  simp [Text.isBlank, Json.compact, brace]

/-- The compact text of an object gives the four schemas with one list of fields. The only texts that
are not accepted are those with a number out of range; they give one and the same error. -/
theorem schemas_of_compact (config : Config) (members : List (Text × Json))
    (shallow : (Json.object members).height ≤ Json.depthLimit) :
    let input := Json.compact (.object members)
    let fields := writtenFields members
    ((Json.object members).InRange →
      transform "zod" config input = .ok (Dialect.zod.declaration fields) ∧
      transform "typebox" config input = .ok (Dialect.typebox.declaration fields) ∧
      transform "mongoose" config input = .ok (Dialect.mongoose.declaration fields) ∧
      transform "sql" config input =
        .ok ((Dialect.sql config.sqlTableName).declaration fields)) ∧
    (¬ (Json.object members).InRange → ∃ fault,
      ∀ c ∈ [Conversion.zod, .typebox, .mongoose, .sql],
        transform c.id config input = .error (.malformedJson fault)) := by
  intro input fields
  have run (c : Conversion) : transform c.id config input = c.run config input :=
    transform_id c config (isBlank_compact members)
  cases readObject_compact shallow with
  | inl read =>
    obtain ⟨inRange, read⟩ := read
    have declared (dialect : Dialect) :
        declareSchema dialect input = .ok (dialect.declaration fields) := by
      rw [declareSchema, read, Except.map, classify_ofEntries, writtenFields_settledMembers]
    refine ⟨fun _ => ?_, fun beyond => absurd inRange beyond⟩
    exact ⟨(run .zod).trans (declared _), (run .typebox).trans (declared _),
      (run .mongoose).trans (declared _), (run .sql).trans (declared _)⟩
  | inr refused =>
    obtain ⟨beyond, fault, refused⟩ := refused
    refine ⟨fun inRange => absurd inRange beyond, fun _ => ⟨fault, ?_⟩⟩
    have failed (dialect : Dialect) :
        declareSchema dialect input = .error (.malformedJson fault) := by
      rw [declareSchema, refused, Except.map]
    intro c listed
    rw [run]
    simp only [List.mem_cons, List.not_mem_nil, or_false] at listed
    rcases listed with rfl | rfl | rfl | rfl <;> exact failed _

/-- A key that is repeated keeps its place and takes the type of its last value. -/
theorem repeated_key_takes_last_type :
    let members : List (Text × Json) :=
      [("id", .string "\x7b"), ("say \"hi\"", .array [.object [("id", .null)]]),
        ("id", .number ⟨true, 1, [5], some 3⟩), ("on", .bool true)]
    let input : Text := "\x7b\"id\":\"\x7b\",\"say \\\"hi\\\"\":[\x7b\"id\":null\x7d]," ++
      "\"id\":-1.5e3,\"on\":true\x7d".toList
    Json.compact (.object members) = input ∧ (Json.object members).height ≤ Json.depthLimit ∧
      (Json.object members).InRange ∧
      transform "zod" {} input = .ok ("const schema = z.object(\x7b\n" ++
        "  id: z.number(),\n  \"say \\\"hi\\\"\": z.string(),\n  on: z.string()\n\x7d);".toList) ∧
      transform "typebox" {} input = .ok ("const schema = Type.Object(\x7b\n" ++
        "  id: Type.Number(),\n  \"say \\\"hi\\\"\": Type.String(),\n" ++
        "  on: Type.String()\n\x7d);".toList) ∧
      transform "mongoose" {} input = .ok ("const schema = new mongoose.Schema(\x7b\n" ++
        "  id: Number,\n  \"say \\\"hi\\\"\": String,\n  on: String\n\x7d);".toList) ∧
      transform "sql" {} input = .ok ("CREATE TABLE my_table (\n" ++
        "  id INT,\n  say \"hi\" VARCHAR(255),\n  on VARCHAR(255)\n);".toList) := by
  intro members input
  have written : Json.compact (.object members) = input := by decide +kernel
  have shallow : (Json.object members).height ≤ Json.depthLimit := by decide +kernel
  have inRange : (Json.object members).InRange := by
    intro n listed
    obtain rfl : n = ⟨true, 1, [5], some 3⟩ := List.mem_singleton.1 listed
    exact ⟨by decide +kernel, by decide +kernel⟩
  have schemas := (schemas_of_compact {} members shallow).1 inRange
  simp only [written] at schemas
  obtain ⟨zod, typebox, mongoose, sql⟩ := schemas
  refine ⟨written, shallow, inRange, zod.trans (congrArg _ ?_), typebox.trans (congrArg _ ?_),
    mongoose.trans (congrArg _ ?_), sql.trans (congrArg _ ?_)⟩ <;> decide +kernel

end Schema

end Snippet
