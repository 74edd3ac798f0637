import Snippet.Conversion.Run

/-!
# Which inputs are refused

A conversion is refused for one of three reasons: the input is blank, no conversion has the
identifier, or the conversion finds nothing in the input that it can read. The first two are the
same for all conversions. For the third there is one condition for each family of conversions, and
the conversions of markup, styles and requests that read any text have none. No configuration makes
a difference to any of them.
-/

namespace Snippet

/-! ## Refusals -/

/-- An outcome is an error of the kind that inputs cause, if the input is refused, and an output
otherwise. -/
def Outcome.FailsIf (outcome : Outcome) (refused : Prop) : Prop :=
  (refused ∧ ∃ e, outcome = .error e ∧ e.kind = .parse) ∨
    (¬ refused ∧ ∃ output, outcome = .ok output)

namespace Outcome.FailsIf

variable {outcome : Outcome} {refused : Prop}

theorem error_iff (failsIf : outcome.FailsIf refused) :
    (∃ e, outcome = .error e ∧ e.kind = .parse) ↔ refused := by
  rcases failsIf with ⟨refused, failed⟩ | ⟨accepted, output, rfl⟩
  · exact ⟨fun _ => refused, fun _ => failed⟩
  · simp [accepted]

theorem ok_iff (failsIf : outcome.FailsIf refused) :
    (∃ output, outcome = .ok output) ↔ ¬ refused := by
  rcases failsIf with ⟨refused, e, rfl, _⟩ | ⟨accepted, succeeded⟩
  · simp [refused]
  · exact ⟨fun _ => accepted, fun _ => succeeded⟩

theorem ne_error (failsIf : outcome.FailsIf refused) {e : ConversionError}
    (other : e.kind ≠ .parse) : outcome ≠ .error e := by
  rcases failsIf with ⟨_, found, rfl, kind⟩ | ⟨_, output, rfl⟩
  · intro same
    obtain rfl := Except.error.inj same
    exact other kind
  · simp

end Outcome.FailsIf

theorem failsIf_ok (output : Text) : Outcome.FailsIf (.ok output) False :=
  Or.inr ⟨id, output, rfl⟩

/-! ## Drawings -/

theorem drawing_eq_none_iff {input : Text} :
    Markup.Svg.ofText? input = none ↔ ¬ Markup.Svg.openingTag <:+: input := by
  have first : ∀ c ∈ Markup.Svg.openingTag.head?, Unicode.isBlank c = false := by
    intro c atStart
    obtain rfl : '<' = c := Option.some.inj atStart
    decide
  have last : ∀ c ∈ Markup.Svg.openingTag.getLast?, Unicode.isBlank c = false := by
    intro c atEnd
    obtain rfl : 'g' = c := Option.some.inj atEnd
    decide
  -- The tag has no blanks at its ends, so it does not matter that the input is trimmed.
  rw [← Text.infix_trim_iff first last, ← Text.contains_iff_infix, Markup.Svg.ofText?]
  simp

theorem requireDrawing_failsIf (component : Text → Text) (input : Text) :
    Outcome.FailsIf (requireDrawing ((Markup.Svg.ofText? input).map component))
      (¬ Markup.Svg.openingTag <:+: input) := by
  rw [← drawing_eq_none_iff]
  cases Markup.Svg.ofText? input with
  | none => exact Or.inl ⟨rfl, _, rfl, rfl⟩
  | some drawing => exact Or.inr ⟨by simp, _, rfl⟩

/-! ## JSON texts -/

theorem kind_of_readJson {input : Text} {e : ConversionError} (failed : readJson input = .error e) :
    e.kind = .parse := by
  rw [readJson] at failed
  cases read : Json.read input with
  | ok document =>
    rw [read] at failed
    exact absurd failed nofun
  | error fault =>
    rw [read] at failed
    obtain rfl := Except.error.inj failed
    rfl

theorem declareTypes_failsIf (root input : Text) :
    (declareTypes root input).FailsIf (∃ e, readJson input = .error e) := by
  rw [declareTypes]
  cases read : readJson input with
  | ok document => exact Or.inr ⟨by simp, _, rfl⟩
  | error e => exact Or.inl ⟨⟨e, rfl⟩, e, rfl, kind_of_readJson read⟩

/-- Whether an input is no JSON text or the JSON text of something else than an object. -/
def LacksObject (input : Text) : Prop :=
  (∃ e, readJson input = .error e) ∨
    ∃ document, readJson input = .ok document ∧ ∀ members, document ≠ .object members

theorem declareSchema_failsIf (dialect : Schema.Dialect) (input : Text) :
    (declareSchema dialect input).FailsIf (LacksObject input) := by
  rw [declareSchema, readObject, LacksObject]
  cases read : readJson input with
  | error e => exact Or.inl ⟨Or.inl ⟨e, rfl⟩, e, rfl, kind_of_readJson read⟩
  | ok document =>
    cases document with
    | object members => exact Or.inr ⟨by simp, _, rfl⟩
    -- The text is JSON, and what it writes is refused for its kind.
    | null | bool | number | string | array =>
      exact Or.inl ⟨Or.inr ⟨_, rfl, by simp⟩, _, rfl, rfl⟩

/-! ## Conversions -/

/-- Whether a conversion finds nothing in an input that it can read. -/
def Conversion.Refuses (c : Conversion) (input : Text) : Prop :=
  match c with
  | svgReact | svgTailwind => ¬ Markup.Svg.openingTag <:+: input
  | typescript => ∃ e, readJson input = .error e
  | zod | typebox | mongoose | sql => LacksObject input
  | htmlJsx | htmlPug | cssObject | cssTailwind | jsonGo | curlFetch | curlAxios => False

theorem run_failsIf (c : Conversion) (config : Config) (input : Text) :
    (c.run config input).FailsIf (c.Refuses input) := by
  cases c with
  | svgReact | svgTailwind => exact requireDrawing_failsIf _ input
  | typescript => exact declareTypes_failsIf config.rootTypeName input
  | zod | typebox | mongoose | sql => exact declareSchema_failsIf _ input
  | htmlJsx | htmlPug | cssObject | cssTailwind | jsonGo | curlFetch | curlAxios =>
    exact failsIf_ok _

def Conversion.jsonReaders : List Conversion :=
  [typescript, zod, typebox, mongoose, sql]

theorem run_eq_error_of_readJson {input : Text} {e : ConversionError}
    (failed : readJson input = .error e) {c : Conversion} (reader : c ∈ Conversion.jsonReaders)
    (config : Config) : c.run config input = .error e := by
  simp only [Conversion.jsonReaders, List.mem_cons, List.not_mem_nil, or_false] at reader
  rcases reader with rfl | rfl | rfl | rfl | rfl <;>
    simp [Conversion.run, declareTypes, declareSchema, readObject, failed, Except.map]

/-! ## Identifiers -/

/-- The refusals by identifier, spelled out rather than taken from the table of conversions. -/
def IsRefused (id input : Text) : Prop :=
  (id ∈ [("svg_react" : Text), "svg_tailwind"] ∧ ¬ "<svg".toList <:+: input) ∨
    (id = "typescript" ∧ ∃ e, readJson input = .error e) ∨
    (id ∈ [("zod" : Text), "typebox", "mongoose", "sql"] ∧ LacksObject input)

theorem isRefused_id (c : Conversion) (input : Text) : IsRefused c.id input ↔ c.Refuses input := by
  -- Identifiers belong to one conversion each, which a look at all of them shows.
  have drawings : c.id ∈ [("svg_react" : Text), "svg_tailwind"] ↔
      c = .svgReact ∨ c = .svgTailwind := by
    cases c <;> decide
  have types : c.id = "typescript" ↔ c = .typescript := by
    cases c <;> decide
  have schemas : c.id ∈ [("zod" : Text), "typebox", "mongoose", "sql"] ↔
      c = .zod ∨ c = .typebox ∨ c = .mongoose ∨ c = .sql := by
    cases c <;> decide
  rw [IsRefused, drawings, types, schemas]
  cases c <;> simp [Conversion.Refuses, Markup.Svg.openingTag]

theorem exists_id_of_isRefused {id input : Text} (refused : IsRefused id input) :
    ∃ c ∈ Conversion.all, c.id = id := by
  simp only [IsRefused, List.mem_cons, List.not_mem_nil, or_false] at refused
  rcases refused with ⟨rfl | rfl, _⟩ | ⟨rfl, _⟩ | ⟨rfl | rfl | rfl | rfl, _⟩ <;> decide

theorem lookup_cases (id : Text) :
    (∃ c ∈ Conversion.all, c.id = id ∧ lookup id = .ok c) ∨
      ((∀ c ∈ Conversion.all, c.id ≠ id) ∧ lookup id = .error (.unknownId id)) := by
  rw [lookup, Conversion.ofId?]
  cases found : Conversion.all.find? (·.id = id) with
  | some c =>
    have same : c.id = id := by simpa using List.find?_some found
    exact Or.inl ⟨c, c.mem_all, same, rfl⟩
  | none =>
    refine Or.inr ⟨?_, rfl⟩
    simpa using List.find?_eq_none.1 found

/-! ## Transformations -/

theorem transform_cases (id : Text) (config : Config) (input : Text) :
    (Text.isBlank input = true ∧ transform id config input = .error .blankInput) ∨
      (Text.isBlank input = false ∧ (∀ c ∈ Conversion.all, c.id ≠ id) ∧
        transform id config input = .error (.unknownId id)) ∨
      (Text.isBlank input = false ∧ (∃ c ∈ Conversion.all, c.id = id) ∧
        (transform id config input).FailsIf (IsRefused id input)) := by
  cases blank : Text.isBlank input with
  | true => exact Or.inl ⟨rfl, by simp [transform, blank]⟩
  | false =>
    rcases lookup_cases id with ⟨c, listed, rfl, found⟩ | ⟨unknown, missing⟩
    · refine Or.inr (Or.inr ⟨rfl, ⟨c, listed, rfl⟩, ?_⟩)
      have outcome : transform c.id config input = c.run config input := by
        simp [transform, blank, found]
      rw [outcome, isRefused_id]
      exact run_failsIf c config input
    · exact Or.inr (Or.inl ⟨rfl, unknown, by simp [transform, blank, missing]⟩)

theorem transform_eq_blankInput_iff {id : Text} {config : Config} {input : Text} :
    transform id config input = .error .blankInput ↔ Text.isBlank input = true := by
  rcases transform_cases id config input with
    ⟨blank, outcome⟩ | ⟨filled, _, outcome⟩ | ⟨filled, _, outcome⟩
  · simp [outcome, blank]
  · simp [outcome, filled]
  · simpa [filled] using outcome.ne_error (e := .blankInput) (by decide)

theorem transform_eq_unknownId_iff {id other : Text} {config : Config} {input : Text} :
    transform id config input = .error (.unknownId other) ↔
      other = id ∧ Text.isBlank input = false ∧ ∀ c ∈ Conversion.all, c.id ≠ id := by
  rcases transform_cases id config input with
    ⟨blank, outcome⟩ | ⟨filled, unknown, outcome⟩ | ⟨_, ⟨c, listed, same⟩, outcome⟩
  · simp [outcome, blank]
  · rw [outcome]
    constructor
    · intro same
      obtain rfl := ConversionError.unknownId.inj (Except.error.inj same)
      exact ⟨rfl, filled, unknown⟩
    · rintro ⟨rfl, _, _⟩
      rfl
  · constructor
    · intro missing
      exact absurd missing (outcome.ne_error nofun)
    · rintro ⟨_, _, unknown⟩
      exact absurd same (unknown c listed)

theorem transform_parse_iff {id : Text} {config : Config} {input : Text} :
    (∃ e, transform id config input = .error e ∧ e.kind = .parse) ↔
      Text.isBlank input = false ∧ IsRefused id input := by
  rcases transform_cases id config input with
    ⟨blank, outcome⟩ | ⟨_, unknown, outcome⟩ | ⟨filled, _, outcome⟩
  · simp [outcome, blank, ConversionError.kind]
  -- An unknown identifier is an error of another kind, and none that is unknown is refused.
  · constructor
    · rintro ⟨e, failed, kind⟩
      obtain rfl := Except.error.inj (outcome.symm.trans failed)
      exact absurd kind nofun
    · rintro ⟨_, refused⟩
      obtain ⟨c, listed, same⟩ := exists_id_of_isRefused refused
      exact absurd same (unknown c listed)
  · rw [outcome.error_iff]
    exact ⟨fun refused => ⟨filled, refused⟩, And.right⟩

theorem transform_ok_iff {id : Text} {config : Config} {input : Text} :
    (∃ output, transform id config input = .ok output) ↔
      Text.isBlank input = false ∧ (∃ c ∈ Conversion.all, c.id = id) ∧ ¬ IsRefused id input := by
  rcases transform_cases id config input with
    ⟨blank, outcome⟩ | ⟨_, unknown, outcome⟩ | ⟨filled, known, outcome⟩
  · simp [outcome, blank]
  · constructor
    · rintro ⟨output, succeeded⟩
      exact absurd (outcome.symm.trans succeeded) nofun
    · rintro ⟨_, ⟨c, listed, same⟩, _⟩
      exact absurd same (unknown c listed)
  · rw [outcome.ok_iff]
    exact ⟨fun accepted => ⟨filled, known, accepted⟩, fun all => all.2.2⟩

theorem transform_eq_error_of_readJson {input : Text} {e : ConversionError}
    (failed : readJson input = .error e) {c : Conversion} (reader : c ∈ Conversion.jsonReaders)
    (config : Config) :
    transform c.id config input = .error (if Text.isBlank input then .blankInput else e) := by
  cases blank : Text.isBlank input with
  | true => simp [transform, blank]
  | false =>
    simp [transform, blank, lookup, Conversion.ofId?_id, run_eq_error_of_readJson failed reader]

/-- What a transformation results in is decided by the identifier and the input alone. A blank input
is reported whatever the identifier is, then an identifier that no conversion has, then an input
that the conversion refuses; everything else gives an output. An error in reading JSON is the same
for all conversions that read it. -/
theorem transform_classified (id : Text) (config : Config) (input : Text) :
    (transform id config input = .error .blankInput ↔ Text.isBlank input = true) ∧
      (∀ other, transform id config input = .error (.unknownId other) ↔
        other = id ∧ Text.isBlank input = false ∧ ∀ c ∈ Conversion.all, c.id ≠ id) ∧
      ((∃ e, transform id config input = .error e ∧ e.kind = .parse) ↔
        Text.isBlank input = false ∧ IsRefused id input) ∧
      ((∃ output, transform id config input = .ok output) ↔
        Text.isBlank input = false ∧ (∃ c ∈ Conversion.all, c.id = id) ∧ ¬ IsRefused id input) ∧
      ∀ e, readJson input = .error e → ∀ c ∈ Conversion.jsonReaders,
        transform c.id config input =
          .error (if Text.isBlank input then .blankInput else e) := by
  exact ⟨transform_eq_blankInput_iff, fun _ => transform_eq_unknownId_iff, transform_parse_iff,
    transform_ok_iff, fun _ failed _ reader => transform_eq_error_of_readJson failed reader config⟩

/-- An object that is not closed is the same fault in a schema and in type declarations. -/
theorem open_object_classified :
    ∃ e, readJson "\x7b" = .error e ∧
      transform "zod" {} "\x7b" = .error e ∧ transform "typescript" {} "\x7b" = .error e := by
  have unread : (readJson "\x7b").toOption.isNone = true := by decide +kernel
  obtain ⟨_, _, _, _, reading⟩ := transform_classified [] {} "\x7b"
  cases read : readJson "\x7b" with
  | ok document =>
    rw [read] at unread
    contradiction
  | error e =>
    exact ⟨e, rfl, reading e read .zod (by decide), reading e read .typescript (by decide)⟩

end Snippet
