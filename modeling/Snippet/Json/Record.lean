import Snippet.Json.Basic
import Snippet.Unicode.Unprintable

/-!
# Records in JSON

A record is read from an object or from an array. In an object the fields stand under their names
and members with other names are ignored; in an array they stand in the order of their declaration.
The first value that does not fit its field is reported, in the order in which the values come;
after that the first field without a value, in the order of the declaration.
-/

namespace Snippet.Json

/-! ## Mismatches -/

/-- Why a JSON value does not stand for a value of some type. -/
inductive Mismatch where
  | unexpected (found : Json) (expected : Text)
  | outOfRange (found : Int) (expected : Text)
  | missing (field : Text)
  | tooShort (length : Nat) (record : Text) (fields : Nat)
  | tooLong (length : Nat)
  | invalid (reason : Text)

def intText (n : Int) : Text :=
  (if n < 0 then ['-'] else []) ++ Nat.toDigits 10 n.natAbs

/-- A character as a message shows it inside double quotation marks. -/
def shownChar (c : Char) : Text :=
  if c = '"' then "\\\""
  else if c = '\\' then "\\\\"
  else if c = '\n' then "\\n"
  else if c = '\r' then "\\r"
  else if c = '\t' then "\\t"
  else if c = '\x00' then "\\0"
  else if Unicode.isUnprintable c then
    "\\u\x7b" ++ Nat.toDigits 16 c.toNat ++ "\x7d"
  else [c]

/-- A value as a message describes it: scalars are shown, of the others only the kind is named. -/
def description : Json → Text
  | null => "null"
  | bool true => "boolean `true`"
  | bool false => "boolean `false`"
  | number n =>
    match n.value? with
    | some (.integer value) => "integer `" ++ intText value ++ "`"
    | some (.float value) => "floating point `" ++ value.text ++ "`"
    | none => "number"
  | string s => "string \"" ++ s.flatMap shownChar ++ ['"']
  | array _ => "sequence"
  | object _ => "map"

def Mismatch.message : Mismatch → Text
  | unexpected found expected =>
    "invalid type: " ++ found.description ++ ", expected " ++ expected
  | outOfRange found expected =>
    "invalid value: integer `" ++ intText found ++ "`, expected " ++ expected
  | missing field => "missing field `" ++ field ++ "`"
  | tooShort length record fields =>
    "invalid length " ++ Nat.toDigits 10 length ++ ", expected struct " ++ record ++
      " with " ++ Nat.toDigits 10 fields ++ " elements"
  | tooLong length =>
    "invalid length " ++ Nat.toDigits 10 length ++
      ", expected fewer elements in array"
  | invalid reason => reason

/-! ## Values of fields -/

def asText : Json → Except Mismatch Text
  | string s => .ok s
  | value => .error (.unexpected value "a string")

def asInt64 : Json → Except Mismatch Int64
  | number n =>
    match n.value? with
    | some (.integer value) =>
      if -(Nat.pow 2 63 : Int) ≤ value ∧ value < (Nat.pow 2 63 : Int) then .ok (Int64.ofInt value)
      else .error (.outOfRange value "i64")
    | _ => .error (.unexpected (.number n) "i64")
  | value => .error (.unexpected value "i64")

def asSequence : Json → Except Mismatch (List Json)
  | array elements => .ok elements
  | value => .error (.unexpected value "a sequence")

/-! ## Records -/

/-- A field of a record: its name and what its value has to satisfy. -/
structure Field where
  name : Text
  check : Json → Except Mismatch Unit

/-- A field whose value has to be read by a given function. -/
def Field.of {α : Type} (name : Text) (decode : Json → Except Mismatch α) : Field :=
  ⟨name, fun value => (decode value).map fun _ => ()⟩

/-- Checks the members of an object that are fields, in the order of the members. -/
def checkMembers (fields : List Field) : Members → Except Mismatch Unit
  | [] => .ok ()
  | (name, value) :: rest =>
    match fields.find? (·.name = name) with
    | none => checkMembers fields rest
    | some field =>
      match field.check value with
      | .ok () => checkMembers fields rest
      | .error mismatch => .error mismatch

def required {α : Type} (name : Text) (decode : Json → Except Mismatch α) (members : Members) :
    Except Mismatch α :=
  match Table.get? name members with
  | some value => decode value
  | none => .error (.missing name)

/-- Reads a record from an object or an array, given how its members are put together. -/
def readRecord {α : Type} (record : Text) (fields : List Field)
    (build : Members → Except Mismatch α) : Json → Except Mismatch α
  | object members =>
    match checkMembers fields members with
    | .ok () => build members
    | .error mismatch => .error mismatch
  | array elements =>
    -- Elements beyond the fields are dropped here and counted at the end.
    let members := (fields.map (·.name)).zip elements
    match checkMembers fields members with
    | .error mismatch => .error mismatch
    | .ok () =>
      match build members with
      -- In an array a field can only be missing because the array ends.
      | .error (.missing _) => .error (.tooShort elements.length record fields.length)
      | .error mismatch => .error mismatch
      | .ok value =>
        if fields.length < elements.length then .error (.tooLong elements.length) else .ok value
  | value => .error (.unexpected value ("struct " ++ record))

end Snippet.Json
