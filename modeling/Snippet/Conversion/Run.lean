import Snippet.Config
import Snippet.Conversion.Basic
import Snippet.Conversion.Error
import Snippet.Markup.Html
import Snippet.Markup.Svg
import Snippet.Request.Fetch
import Snippet.Schema.Declaration
import Snippet.Style.ObjectLiteral
import Snippet.Style.Utility
import Snippet.TypeScript.Inference

/-!
# Running conversions

The output of every conversion. An input that is blank is refused before anything else, whatever
conversion is asked for.
-/

namespace Snippet

/-- The result of a conversion: its output, or why there is none. -/
abbrev Outcome := Except ConversionError Text

def readJson (input : Text) : Except ConversionError Json :=
  (Json.read input).mapError .malformedJson

def readObject (input : Text) : Except ConversionError Json.Members :=
  match readJson input with
  | .ok (.object members) => .ok members
  | .ok other => .error (.objectExpected other)
  | .error e => .error e

def declareSchema (dialect : Schema.Dialect) (input : Text) : Outcome :=
  (readObject input).map fun members => dialect.declaration (Schema.classify members)

def declareTypes (root input : Text) : Outcome :=
  (readJson input).map fun document => (TypeScript.infer root document).text

/-- A component made from a drawing, if the input was one. -/
def requireDrawing : Option Text → Outcome
  | some output => .ok output
  | none => .error .drawingExpected

namespace Conversion

/-- The input under a comment that names a conversion. -/
def passThrough (c : Conversion) (input : Text) : Text :=
  "// converted to " ++ c.id ++ "\n" ++ input

def run (c : Conversion) (config : Config) (input : Text) : Outcome :=
  match c with
  | svgReact => requireDrawing (Markup.Svg.toComponent? config.componentName input)
  | svgTailwind =>
    requireDrawing
      (Markup.Svg.toStyledComponent? config.componentName config.tailwindClass input)
  | htmlJsx => .ok (Markup.Html.toJsx input)
  | cssObject => .ok (Style.toObjectLiteral input)
  | cssTailwind => .ok (Style.toUtilityClasses input)
  | typescript => declareTypes config.rootTypeName input
  | zod => declareSchema .zod input
  | typebox => declareSchema .typebox input
  | mongoose => declareSchema .mongoose input
  | sql => declareSchema (.sql config.sqlTableName) input
  | curlFetch => .ok (Request.toFetch config.placeholderUrl input)
  | htmlPug | jsonGo | curlAxios => .ok (c.passThrough input)

end Conversion

def lookup (id : Text) : Except ConversionError Conversion :=
  match Conversion.ofId? id with
  | some c => .ok c
  | none => .error (.unknownId id)

def transform (id : Text) (config : Config) (input : Text) : Outcome :=
  -- A blank input hides an identifier that does not exist.
  if Text.isBlank input then .error .blankInput
  else
    match lookup id with
    | .ok c => c.run config input
    | .error e => .error e

/-- The outcomes of several conversions, each of them run on the last output there is. -/
def chain (config : Config) : List Text → Text → List Outcome
  | [], _ => []
  | id :: ids, input =>
    let outcome := transform id config input
    -- A conversion that fails hands its own input on.
    outcome :: chain config ids (outcome.toOption.getD input)

end Snippet
