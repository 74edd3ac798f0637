import Snippet.History.TimestampReader
import Snippet.Json.Record

/-!
# History entries

What is kept of a conversion. A draft is the record of a conversion that has just succeeded; an entry
is a draft that has been stored, with a number, a time and an owner. Both are read from and written
to JSON.
-/

namespace Snippet.History

open Json (Mismatch)

/-- The record of a successful conversion. -/
structure Draft where
  inputText : Text
  outputText : Text
  /-- The identifier of the conversion. -/
  formatType : Text
  deriving DecidableEq, Repr

structure Entry where
  id : Int64
  createdAt : Timestamp
  inputText : Text
  outputText : Text
  formatType : Text
  userId : Text
  deriving DecidableEq, Repr

namespace Draft

def fields : List Json.Field :=
  [.of "input_text" Json.asText, .of "output_text" Json.asText, .of "format_type" Json.asText]

def ofMembers (members : Json.Members) : Except Mismatch Draft := do
  let inputText ← Json.required "input_text" Json.asText members
  let outputText ← Json.required "output_text" Json.asText members
  let formatType ← Json.required "format_type" Json.asText members
  pure { inputText, outputText, formatType }

def ofJson : Json → Except Mismatch Draft :=
  Json.readRecord "HistoryDraft" fields ofMembers

def toJson (draft : Draft) : Json :=
  .object
    [("input_text", .string draft.inputText), ("output_text", .string draft.outputText),
     ("format_type", .string draft.formatType)]

/-- The draft of a conversion with a given outcome; there is one only if the conversion
succeeded. -/
def ofOutcome {ε : Type} (id input : Text) : Except ε Text → Option Draft
  | .ok output => some ⟨input, output, id⟩
  | .error _ => none

end Draft

namespace Entry

def asTimestamp : Json → Except Mismatch Timestamp
  | .string s =>
    match Timestamp.parse s with
    | .ok timestamp => .ok timestamp
    | .error fault => .error (.invalid fault.message)
  | value => .error (.unexpected value "an RFC 3339 formatted date and time string")

def fields : List Json.Field :=
  [.of "id" Json.asInt64, .of "created_at" asTimestamp, .of "input_text" Json.asText,
   .of "output_text" Json.asText, .of "format_type" Json.asText, .of "user_id" Json.asText]

def ofMembers (members : Json.Members) : Except Mismatch Entry := do
  let id ← Json.required "id" Json.asInt64 members
  let createdAt ← Json.required "created_at" asTimestamp members
  let inputText ← Json.required "input_text" Json.asText members
  let outputText ← Json.required "output_text" Json.asText members
  let formatType ← Json.required "format_type" Json.asText members
  let userId ← Json.required "user_id" Json.asText members
  pure { id, createdAt, inputText, outputText, formatType, userId }

def ofJson : Json → Except Mismatch Entry :=
  Json.readRecord "HistoryEntry" fields ofMembers

def toJson (entry : Entry) : Json :=
  .object
    [("id", .number (.ofInt entry.id.toInt)), ("created_at", .string entry.createdAt.text),
     ("input_text", .string entry.inputText), ("output_text", .string entry.outputText),
     ("format_type", .string entry.formatType), ("user_id", .string entry.userId)]

def listOfJson (value : Json) : Except Mismatch (List Entry) :=
  match Json.asSequence value with
  | .ok elements => elements.mapM ofJson
  | .error mismatch => .error mismatch

end Entry

end Snippet.History
