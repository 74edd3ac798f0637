import Snippet.TypeScript.Type
import Snippet.Json.Basic
import Snippet.Naming.TypeName

/-!
# Inferring types

The types of a JSON document. Every object becomes an interface, named after the key under which it
stands; an object whose fields have the keys and types of an earlier interface is of that type, and
its own name is free again. The place of an interface among the declarations is taken before its
fields are visited, so the interfaces come in the order in which their objects are met.

`mem_takenEndings` says that the endings which a new name avoids are those of the names taken.
-/

namespace Snippet.TypeScript

/-! ## Names -/

def defaultName : Text := "Nested"

/-- What is written behind a name that is tried for the first, second, third, … time: nothing, and
then the numbers from two on. -/
def numbered : Nat → Text
  | 0 => []
  | n + 1 => Nat.toDigits 10 (n + 2)

def takenEndings (base : Text) (taken : List Text) : List Text :=
  taken.filterMap (Text.dropStart? base)

/-- The first ending that is not among given ones. There is one more to try than there are given
ones, so one of them is free. -/
def freshEnding (endings : List Text) : Text :=
  let isFree (n : Nat) : Bool := !endings.contains (numbered n)
  numbered (((List.range (endings.length + 1)).find? isFree).getD 0)

/-- The first name for a hint that is not taken: the hint itself or the hint with a number. -/
def freshName (hint : Text) (taken : List Text) : Text :=
  let base := if hint.isEmpty then defaultName else hint
  base ++ freshEnding (takenEndings base taken)

theorem mem_takenEndings {base ending : Text} {taken : List Text} :
    ending ∈ takenEndings base taken ↔ base ++ ending ∈ taken := by
  simp only [takenEndings, List.mem_filterMap, Text.dropStart?_eq_some_iff]
  constructor
  · rintro ⟨name, member, rfl⟩
    exact member
  · intro member
    exact ⟨_, member, rfl⟩

/-! ## State of an inference -/

/-- What an inference has found so far: a slot for every object met, filled if the object got an
interface of its own; the names that are taken; and the name of every shape. -/
structure Inference where
  slots : List (Option Interface) := []
  taken : List Text := []
  shapes : Table Text := []
  deriving Inhabited

/-- The shape of an object, written out: its keys with the texts of their types. -/
def signature (fields : Fields) : Text :=
  fields.flatMap fun field => field.1 ++ ":" ++ field.2.text ++ ";"

namespace Inference

/-- Takes a name and a slot for an object. -/
def openObject (s : Inference) (hint : Text) : Text × Inference :=
  let name := freshName hint s.taken
  (name, { s with slots := s.slots ++ [none], taken := name :: s.taken })

/-- Gives an object its type once the types of its fields are known: that of an earlier object of
the same shape, or a new interface in the object's slot. -/
def closeObject (s : Inference) (name : Text) (slot : Nat) (fields : Fields) :
    TypeExpr × Inference :=
  match Table.get? (signature fields) s.shapes with
  -- The slot of the object stays empty.
  | some known => (.named known, { s with taken := s.taken.erase name })
  | none =>
    (.named name,
      { s with
        slots := s.slots.set slot (some ⟨name, fields⟩)
        shapes := (signature fields, name) :: s.shapes })

def interfaces (s : Inference) : List Interface :=
  s.slots.filterMap id

end Inference

/-! ## Types of values -/

/-- The type of an array whose elements have given types; types of the same text count as one. -/
def arrayType (types : List TypeExpr) : TypeExpr :=
  .array (types.eraseDupsBy fun a b => a.text == b.text)

mutual

/-- The type of a value; the hint names it if it is an object. -/
def typeOf (hint : Text) : Json → Inference → TypeExpr × Inference
  | .null, s => (.null, s)
  | .bool _, s => (.boolean, s)
  | .number _, s => (.number, s)
  | .string _, s => (.string, s)
  | .array elements, s =>
    let (types, s) := elementTypes (Naming.singular hint) elements s
    (arrayType types, s)
  | .object members, s =>
    let (name, opened) := s.openObject hint
    let (fields, visited) := fieldTypes members opened
    -- Opening has put the slot of this object behind those of `s`, and before those of its fields.
    visited.closeObject name s.slots.length fields

def elementTypes (hint : Text) : List Json → Inference → List TypeExpr × Inference
  | [], s => ([], s)
  | element :: rest, s =>
    let (type, s) := typeOf hint element s
    let (types, s) := elementTypes hint rest s
    (type :: types, s)

/-- The fields of an object, each with the type name of its key as hint. -/
def fieldTypes : List (Text × Json) → Inference → Fields × Inference
  | [], s => ([], s)
  | (key, value) :: rest, s =>
    let (type, s) := typeOf (Naming.typeName key) value s
    let (fields, s) := fieldTypes rest s
    ((key, type) :: fields, s)

end

/-- The declarations for a document whose root has a given name. A root that is no object becomes an
alias, and the elements of a root array are named after it. -/
def infer (root : Text) : Json → Declarations
  | .object members => ⟨none, (typeOf root (.object members) {}).2.interfaces⟩
  | .array elements =>
    -- The hint of a root array is its own, not the singular of the root name.
    let (types, s) := elementTypes (root ++ "Item") elements {}
    ⟨some (root, arrayType types), s.interfaces⟩
  | value =>
    let (type, s) := typeOf root value {}
    ⟨some (root, type), s.interfaces⟩

end Snippet.TypeScript
