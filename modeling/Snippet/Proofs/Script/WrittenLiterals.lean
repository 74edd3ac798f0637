import Snippet.Conversion.Run
import Snippet.Proofs.Script.StringLiteral

/-!
# Literals in outputs

Three conversions write texts of their input as literals in single quotation marks: the values of a
style sheet, the values of an inline style, and the address of a request. All three escape the mark
and nothing else. So a literal means the text that it was made from exactly if that text is plain,
and this depends neither on the conversion nor on what stands around the literal.
-/

namespace Snippet

open Script (Means IsPlain)

namespace Script

/-- A literal in an output: the text that it was made from, and the output before and behind it. -/
structure Place where
  before : Text
  value : Text
  behind : Text
  deriving DecidableEq

namespace Place

def output (place : Place) : Text :=
  place.before ++ (Text.quoteSingle place.value ++ place.behind)

def MeansValue (place : Place) : Prop :=
  Means (Text.quoteSingle place.value) place.behind place.value

end Place

end Script

open Script (Place)

/-! ## Places of literals -/

namespace Style

/-- The places of the values in a list of entries, each of them with a lead before it and with a
separator between neighbours. -/
def entryPlaces (before lead separator behind : Text) : List (Text × Text) → List Place
  | [] => []
  | (key, value) :: rest =>
    ⟨before ++ (lead ++ (Text.propertyKey key ++ ": ")), value,
        (rest.flatMap fun entry => separator ++ (lead ++ entryText entry)) ++ behind⟩ ::
      entryPlaces (before ++ (lead ++ (entryText (key, value) ++ separator))) lead separator behind
        rest

theorem map_value_entryPlaces (before lead separator behind : Text)
    (entries : List (Text × Text)) :
    (entryPlaces before lead separator behind entries).map Place.value =
      entries.map Prod.snd := by
  induction entries generalizing before with
  | nil => rfl
  | cons entry rest ih => rw [entryPlaces, List.map_cons, ih, List.map_cons]

theorem output_of_mem_entryPlaces {before lead separator behind : Text}
    {entries : List (Text × Text)} {place : Place}
    (listed : place ∈ entryPlaces before lead separator behind entries) :
    place.output =
      before ++ (Text.join separator (entries.map fun entry => lead ++ entryText entry) ++
        behind) := by
  induction entries generalizing before with
  | nil => simp [entryPlaces] at listed
  | cons entry rest ih =>
    obtain ⟨key, value⟩ := entry
    rw [entryPlaces] at listed
    cases List.mem_cons.1 listed with
    | inl first =>
      subst first
      simp [Place.output, Text.join_cons, entryText, List.flatMap_map]
    | inr later =>
      -- There is another entry, so the separator stands behind the first one.
      obtain ⟨next, others, shape⟩ : ∃ next others, rest = next :: others := by
        cases rest with
        | nil => simp [entryPlaces] at later
        | cons next others => exact ⟨next, others, rfl⟩
      rw [ih later, shape]
      simp [Text.join_cons]

def sheetPlaces (sheet : Text) : List Place :=
  entryPlaces "\x7b\n" "  " ",\n" "\n\x7d" (sheetEntries sheet)

theorem output_of_mem_sheetPlaces {sheet : Text} {place : Place}
    (listed : place ∈ sheetPlaces sheet) : place.output = toObjectLiteral sheet := by
  have filled : (sheetEntries sheet).isEmpty = false := by
    rw [List.isEmpty_eq_false_iff]
    intro empty
    simp [sheetPlaces, empty, entryPlaces] at listed
  rw [output_of_mem_entryPlaces listed, toObjectLiteral, objectLiteral, filled]
  exact (List.append_assoc _ _ _).symm

end Style

namespace Markup.Html

def inlineStyle? (t : Text) : Option (Text.Match (Char × Text)) :=
  styleAttribute.find (renameAttribute "for" "htmlFor" (renameAttribute "class" "className" t))

def stylePlaces (t : Text) : List Place :=
  match inlineStyle? t with
  | none => []
  | some m =>
    Style.entryPlaces (m.before ++ m.found.1 :: "style=\x7b\x7b".toList) [] ", "
      ("\x7d\x7d" ++ m.after) (Style.inlineEntries m.found.2)

theorem output_of_mem_stylePlaces {t : Text} {place : Place} (listed : place ∈ stylePlaces t) :
    place.output = toJsx t := by
  unfold stylePlaces at listed
  split at listed
  next => simp at listed
  next m found =>
    -- The places cut the page around the values, the pass cuts it around the whole attribute.
    have around (before start body ending after : Text) (blank : Char) :
        (before ++ blank :: start) ++ (body ++ (ending ++ after)) =
          before ++ (blank :: (start ++ body ++ ending)) ++ after := by
      simp
    have output := Style.output_of_mem_entryPlaces listed
    have whole : toJsx t = m.before ++ (m.found.1 :: styleText m.found.2) ++ m.after := by
      rw [inlineStyle?] at found
      simp only [toJsx, replaceStyle, Text.Pattern.replaceFirst, found]
    exact (output.trans (around _ _ _ _ _ _)).trans whole.symm

end Markup.Html

namespace Request

def callEnding : Text :=
  ", \x7b\n" ++
    "  method: 'GET',\n" ++
    "  headers: \x7b\n" ++
    "    'Content-Type': 'application/json'\n" ++
    "  \x7d\n" ++
    "\x7d)\n" ++
    "  .then(response => response.json())\n" ++
    "  .then(data => console.log(data))\n" ++
    "  .catch(error => console.error('Error:', error));"

theorem fetchCall_eq (url : Text) :
    fetchCall url = "fetch(" ++ (Text.quoteSingle url ++ callEnding) := by
  have parts (a b c d e f g h i j k : Text) : a ++ b ++ c ++ d ++ e ++ f ++ g ++ h ++ i ++ j ++ k =
      a ++ (b ++ (c ++ d ++ e ++ f ++ g ++ h ++ i ++ j ++ k)) := by
    simp only [List.append_assoc]
  exact parts ..

def addressPlace (placeholder command : Text) : Place :=
  ⟨"fetch(", (firstQuoted command).getD placeholder, callEnding⟩

theorem output_addressPlace (placeholder command : Text) :
    (addressPlace placeholder command).output = toFetch placeholder command :=
  (fetchCall_eq _).symm

end Request

/-! ## Conversions -/

/-- The places of the literals that a conversion makes from texts of its input. -/
def Conversion.literals (c : Conversion) (config : Config) (input : Text) : List Place :=
  match c with
  | cssObject => Style.sheetPlaces input
  | htmlJsx => Markup.Html.stylePlaces input
  | curlFetch => [Request.addressPlace config.placeholderUrl input]
  | _ => []

/-- The texts of an input that a conversion writes as literals, in the order of the literals: the
values that a style sheet or an inline style declares, and an address or its placeholder. -/
def Conversion.literalValues (c : Conversion) (config : Config) (input : Text) : List Text :=
  match c with
  | cssObject => (Style.sheetEntries input).map Prod.snd
  | htmlJsx =>
    match Markup.Html.inlineStyle? input with
    | none => []
    | some m => (Style.inlineEntries m.found.2).map Prod.snd
  | curlFetch => [(Request.firstQuoted input).getD config.placeholderUrl]
  | _ => []

theorem map_value_literals (c : Conversion) (config : Config) (input : Text) :
    (c.literals config input).map Place.value = c.literalValues config input := by
  cases c with
  | cssObject => exact Style.map_value_entryPlaces _ _ _ _ _
  | htmlJsx =>
    simp only [Conversion.literals, Conversion.literalValues, Markup.Html.stylePlaces]
    cases Markup.Html.inlineStyle? input with
    | none => rfl
    | some m => exact Style.map_value_entryPlaces _ _ _ _ _
  | _ => rfl

theorem run_of_mem_literals {c : Conversion} {config : Config} {input : Text} {place : Place}
    (listed : place ∈ c.literals config input) : c.run config input = .ok place.output := by
  cases c with
  | cssObject => rw [Style.output_of_mem_sheetPlaces listed, Conversion.run]
  | htmlJsx => rw [Markup.Html.output_of_mem_stylePlaces listed, Conversion.run]
  | curlFetch =>
    obtain rfl := List.mem_singleton.1 listed
    rw [Request.output_addressPlace, Conversion.run]
  -- The other conversions write no literal of this kind.
  | _ => simp [Conversion.literals] at listed

/-- A conversion writes a literal for every text that it takes over as a value, and the literal means
that text exactly if there is neither a backslash nor a line terminator in it. -/
theorem literals_mean_plain_values (c : Conversion) (config : Config) (input : Text) :
    (c.literals config input).map Place.value = c.literalValues config input ∧
      ∀ place ∈ c.literals config input,
        c.run config input = .ok place.output ∧ (place.MeansValue ↔ IsPlain place.value) :=
  ⟨map_value_literals c config input, fun _ listed =>
    ⟨run_of_mem_literals listed, Script.means_quoteSingle_iff⟩⟩

/-- A mark in an address is escaped. -/
theorem mark_in_address_kept :
    let input : Text := "curl \"https://a.test/?q=it's\""
    let place : Place := ⟨"fetch(", "https://a.test/?q=it's", Request.callEnding⟩
    place ∈ Conversion.curlFetch.literals {} input ∧
      Conversion.curlFetch.run {} input = .ok place.output ∧
      (place.MeansValue ↔ IsPlain place.value) ∧ place.MeansValue := by
  intro input place
  have listed : place ∈ Conversion.curlFetch.literals {} input := by decide +kernel
  obtain ⟨written, means⟩ := (literals_mean_plain_values .curlFetch {} input).2 place listed
  refine ⟨listed, written, means, means.2 ⟨by decide +kernel, ?_⟩⟩
  have noLine : place.value.any Script.isLineTerminator = false := by decide +kernel
  intro c line inside
  exact List.any_eq_false.1 noLine c inside line

/-- An escape in the value of a declaration is written as it stands, so the literal does not mean the
value. -/
theorem escape_in_value_lost :
    let input : Text := "content: \"\\201C\";"
    let output : Text := "\x7b\n  content: '\"\\201C\"'\n\x7d"
    let place : Place := ⟨"\x7b\n  content: ", "\"\\201C\"", "\n\x7d"⟩
    Style.sheetEntries input = [(("content" : Text), place.value)] ∧
      Conversion.cssObject.run {} input = .ok output ∧
      place ∈ Conversion.cssObject.literals {} input ∧ place.output = output ∧
      ¬ place.MeansValue := by
  intro input output place
  have entries : Style.sheetEntries input = [(("content" : Text), place.value)] := by
    decide +kernel
  have literal : Style.objectLiteral [(("content" : Text), place.value)] = output := by
    decide +kernel
  have notPlain : ¬ IsPlain place.value := fun plain => plain.1 (by decide +kernel)
  refine ⟨entries, ?_, by decide +kernel, by decide +kernel, ?_⟩
  · rw [Conversion.run, Style.toObjectLiteral, entries, literal]
  · rwa [Place.MeansValue, Script.means_quoteSingle_iff]

end Snippet
