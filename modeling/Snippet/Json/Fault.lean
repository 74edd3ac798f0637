import Snippet.Text.Basic

/-!
# Faults in JSON texts

What can be wrong with a JSON text, and where. While a text is being read a fault is placed by the
number of bytes that are left unread; for a message that place is turned into a line and a column,
both counted in bytes of UTF-8 and from the last line feed before the place.
-/

namespace Snippet.Json

inductive Cause where
  | valueMissing
  | listOpen
  | objectOpen
  | stringOpen
  | valueExpected
  | wordExpected
  | keyNotString
  | colonExpected
  | listSeparatorExpected
  | objectSeparatorExpected
  | trailingComma
  | trailingCharacters
  | invalidNumber
  | numberOutOfRange
  | invalidEscape
  | loneSurrogate
  | surrogateUnpaired
  | controlCharacter
  | tooDeep
  deriving DecidableEq, Repr

def Cause.message : Cause → Text
  | valueMissing => "EOF while parsing a value"
  | listOpen => "EOF while parsing a list"
  | objectOpen => "EOF while parsing an object"
  | stringOpen => "EOF while parsing a string"
  | valueExpected => "expected value"
  | wordExpected => "expected ident"
  | keyNotString => "key must be a string"
  | colonExpected => "expected `:`"
  | listSeparatorExpected => "expected `,` or `]`"
  | objectSeparatorExpected => "expected `,` or `\x7d`"
  | trailingComma => "trailing comma"
  | trailingCharacters => "trailing characters"
  | invalidNumber => "invalid number"
  | numberOutOfRange => "number out of range"
  | invalidEscape => "invalid escape"
  | loneSurrogate => "lone leading surrogate in hex escape"
  | surrogateUnpaired => "unexpected end of hex escape"
  | controlCharacter => "control character (\\u0000-\\u001F) found while parsing a string"
  | tooDeep => "recursion limit exceeded"

/-- A fault met while reading: its cause, and how many bytes are left after its place. -/
structure Fault where
  cause : Cause
  left : Nat
  deriving DecidableEq, Repr

/-- Refuses a text after some of its bytes: the place of the fault lies behind these bytes, or at
the end of the text if it has fewer. -/
def refuse {α : Type} (cause : Cause) (bytes : Nat) (t : Text) : Except Fault α :=
  .error ⟨cause, Text.byteSize t - bytes⟩

/-! ## Lines and columns -/

/-- A place in a text: the line, counted from one, and the bytes before the place in that line. -/
structure Position where
  line : Nat
  column : Nat
  deriving DecidableEq, Repr

/-- The place that lies some bytes behind a given one, over the text between them. -/
def Position.advance (p : Position) : Nat → Text → Position
  | _, [] => p
  | bytes, c :: rest =>
    if bytes = 0 then p
    else if c = '\n' then advance ⟨p.line + 1, 0⟩ (bytes - 1) rest
    -- The place is inside this character or right behind it.
    else if bytes ≤ c.utf8Size then ⟨p.line, p.column + bytes⟩
    else advance ⟨p.line, p.column + c.utf8Size⟩ (bytes - c.utf8Size) rest

structure SyntaxFault where
  cause : Cause
  position : Position
  deriving DecidableEq, Repr

def Fault.locate (fault : Fault) (t : Text) : SyntaxFault :=
  ⟨fault.cause, Position.advance ⟨1, 0⟩ (Text.byteSize t - fault.left) t⟩

def SyntaxFault.message (fault : SyntaxFault) : Text :=
  fault.cause.message ++ " at line " ++ Nat.toDigits 10 fault.position.line ++
    " column " ++ Nat.toDigits 10 fault.position.column

end Snippet.Json
