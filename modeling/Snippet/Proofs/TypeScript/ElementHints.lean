import Mathlib.Logic.Function.Iterate
import Snippet.Proofs.TypeScript.Visit

/-!
# Hints inside arrays

An array hands the singular of its hint on to its elements, and an array among them does the same
again. A singular is its own singular, so the hint changes at the outermost array only: what stands
under a key is visited with the type name of the key, and what stands in arrays there with the
singular of that name, however deep the arrays lie in each other.
-/

namespace Snippet

/-! ## Singulars -/

namespace Naming

theorem singular_singular (name : Text) : singular (singular name) = singular name := by
  rcases singular_cases name with ⟨stem, _, _, shape⟩ | ⟨stem, _, plural, single, shape⟩ | same
  · rw [shape]
    -- A `y` stands at the end, so there is nothing to take away.
    exact singular_eq_self (by simp [List.getLast?_append])
  · rw [shape]
    -- Another `s` at the end would make a double one, which stays in a singular.
    refine singular_eq_self fun last => single ?_
    obtain ⟨start, rfl⟩ := List.getLast?_eq_some_iff.1 last
    exact ⟨start, by simp [plural]⟩
  · rw [same, same]

theorem singular_eq_nil_iff {name : Text} : singular name = [] ↔ name = [] := by
  rcases singular_cases name with ⟨stem, _, plural, shape⟩ | ⟨stem, filled, plural, _, shape⟩ | same
  · rw [shape, plural]
    simp
  · rw [shape, plural]
    simp [filled]
  · rw [same]

end Naming

/-! ## Visits inside arrays -/

namespace TypeScript

open Naming (singular singular_singular singular_eq_nil_iff)

mutual

/-- The type of a value that stands inside a number of arrays, if `hintAt n` is the hint for what
stands inside `n` arrays. -/
def typeInside (hintAt : Nat → Text) (depth : Nat) : Json → Inference → TypeExpr × Inference
  | .array elements, s =>
    let (types, s) := typesInside hintAt (depth + 1) elements s
    (arrayType types, s)
  | value, s => typeOf (hintAt depth) value s

def typesInside (hintAt : Nat → Text) (depth : Nat) :
    List Json → Inference → List TypeExpr × Inference
  | [], s => ([], s)
  | element :: rest, s =>
    let (type, s) := typeInside hintAt depth element s
    let (types, s) := typesInside hintAt depth rest s
    (type :: types, s)

end

/-- The hint for what stands inside a number of arrays that have a hint in common. -/
def hintInside (hint : Text) : Nat → Text
  | 0 => hint
  | _ + 1 => singular hint

theorem hintInside_succ (hint : Text) (depth : Nat) :
    hintInside hint (depth + 1) = singular (hintInside hint depth) := by
  cases depth with
  | zero => rfl
  | succ depth => exact (singular_singular hint).symm

mutual

/-- If every hint is the singular of the one outside, a visit uses them one after the other on its
way into arrays. -/
theorem typeInside_eq {hintAt : Nat → Text}
    (handsOn : ∀ depth, hintAt (depth + 1) = singular (hintAt depth)) (depth : Nat) (value : Json)
    (s : Inference) : typeInside hintAt depth value s = typeOf (hintAt depth) value s := by
  match value with
  -- Only an array changes the hint; everything else is visited with the hint of its depth.
  | .null | .bool _ | .number _ | .string _ | .object _ => rfl
  | .array elements =>
    have inside := typesInside_eq handsOn (depth + 1) elements s
    rw [handsOn] at inside
    rw [typeOf_array, ← inside]
    rfl

theorem typesInside_eq {hintAt : Nat → Text}
    (handsOn : ∀ depth, hintAt (depth + 1) = singular (hintAt depth)) (depth : Nat)
    (elements : List Json) (s : Inference) :
    typesInside hintAt depth elements s = elementTypes (hintAt depth) elements s := by
  match elements with
  | [] => rfl
  | element :: rest =>
    rw [elementTypes_cons, ← typeInside_eq handsOn depth element s,
      ← typesInside_eq handsOn depth rest (typeInside hintAt depth element s).2]
    rfl

end

/-- A singular is its own singular, and only the singular of nothing is nothing. So what stands inside
arrays under a key, whatever their depth, is visited with one and the same hint: the singular of the
type name of the key. -/
theorem element_hints_settle (hint : Text) :
    singular (singular hint) = singular hint ∧
    (singular hint = [] ↔ hint = []) ∧
    (∀ depth, singular^[depth + 1] hint = singular hint) ∧
    (∀ value s, typeOf hint value s = typeInside (hintInside hint) 0 value s) ∧
    (∀ depth elements s,
      typesInside (hintInside hint) (depth + 1) elements s =
        elementTypes (singular hint) elements s) ∧
    ∀ key value rest s,
      fieldTypes ((key, value) :: rest) s =
        let (type, visited) := typeInside (hintInside (Naming.typeName key)) 0 value s
        let (fields, last) := fieldTypes rest visited
        ((key, type) :: fields, last) := by
  refine ⟨singular_singular hint, singular_eq_nil_iff, ?_, ?_, ?_, ?_⟩
  · intro depth
    rw [Function.iterate_succ_apply, Function.iterate_fixed (singular_singular hint)]
  · intro value s
    exact (typeInside_eq (hintInside_succ hint) 0 value s).symm
  · intro depth elements s
    exact typesInside_eq (hintInside_succ hint) (depth + 1) elements s
  · intro key value rest s
    have visit := typeInside_eq (hintInside_succ (Naming.typeName key)) 0 value s
    rw [fieldTypes_cons, visit]
    rfl

/-- Objects inside one array and inside three, under a key whose singular ends otherwise. -/
example :
    let document : Json := .object [("series",
      .array [.object [("a", .null)], .array [.array [.object [("b", .null)]]]])]
    (infer "Root" document).interfaces.map Interface.name = [↑"Root", ↑"Sery", ↑"Sery2"] := by
  decide +kernel

end TypeScript

end Snippet
