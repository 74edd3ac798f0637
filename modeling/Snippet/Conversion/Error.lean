import Snippet.Json.Reader

/-!
# Errors of conversions

Why a conversion has no output. A message is chosen from the cause, and causes fall into three kinds
that a user interface tells apart.
-/

namespace Snippet

inductive ConversionError where
  | unknownId (id : Text)
  | malformedJson (fault : Json.SyntaxFault)
  | objectExpected (found : Json)
  | drawingExpected
  | blankInput

namespace ConversionError

inductive Kind where
  | notFound
  | parse
  | emptyInput
  deriving DecidableEq, Repr

def kind : ConversionError → Kind
  | unknownId _ => .notFound
  | malformedJson _ | objectExpected _ | drawingExpected => .parse
  | blankInput => .emptyInput

def Kind.name : Kind → Text
  | notFound => "NotFound"
  | parse => "ParseError"
  | emptyInput => "EmptyInput"

def message : ConversionError → Text
  | unknownId id => "unknown conversion: " ++ id
  | malformedJson fault => "parse error: " ++ fault.message
  | objectExpected found =>
    "parse error: expected a JSON object at the top level, found " ++ found.kindName
  | drawingExpected => "parse error: input does not contain an <svg> element"
  | blankInput => "nothing to convert"

end ConversionError

end Snippet
