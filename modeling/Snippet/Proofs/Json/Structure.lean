import Snippet.Json.Basic

/-!
# Keys, nodes and heights of JSON values

What statements about whole documents need: the keys of all objects in a value, however deep; its
nodes, which are the value itself and the nodes inside it; and the height of a value, by which an
object or array exceeds everything inside it.
-/

namespace Snippet.Json

/-! ## Keys -/

mutual

def allKeys : Json → List Text
  | .array elements => keysOfElements elements
  | .object members => keysOfMembers members
  | _ => []

def keysOfElements : List Json → List Text
  | [] => []
  | element :: rest => allKeys element ++ keysOfElements rest

def keysOfMembers : List (Text × Json) → List Text
  | [] => []
  | (key, value) :: rest => key :: (allKeys value ++ keysOfMembers rest)

end

theorem key_mem_keysOfMembers {member : Text × Json} {members : List (Text × Json)}
    (listed : member ∈ members) : member.1 ∈ keysOfMembers members := by
  induction members with
  | nil => simp at listed
  | cons first rest ih =>
    cases List.mem_cons.1 listed with
    | inl same =>
      subst same
      exact List.mem_cons_self
    | inr later =>
      exact List.mem_cons_of_mem _ (List.mem_append_right _ (ih later))

/-! ## Nodes -/

mutual

/-- The nodes of a value, each before what is inside it, elements and members in order. -/
def nodes : Json → List Json
  | .array elements => .array elements :: nodesOfElements elements
  | .object members => .object members :: nodesOfMembers members
  | value => [value]

def nodesOfElements : List Json → List Json
  | [] => []
  | element :: rest => nodes element ++ nodesOfElements rest

def nodesOfMembers : List (Text × Json) → List Json
  | [] => []
  | (_, value) :: rest => nodes value ++ nodesOfMembers rest

end

def members? : Json → Option (List (Text × Json))
  | .object members => some members
  | _ => none

/-! ## Heights -/

mutual

/-- The number of arrays and objects on the longest way into a value. -/
def height : Json → Nat
  | .array elements => heightOfElements elements + 1
  | .object members => heightOfMembers members + 1
  | _ => 0

def heightOfElements : List Json → Nat
  | [] => 0
  | element :: rest => max (height element) (heightOfElements rest)

def heightOfMembers : List (Text × Json) → Nat
  | [] => 0
  | (_, value) :: rest => max (height value) (heightOfMembers rest)

end

theorem heightOfElements_le_iff {elements : List Json} {n : Nat} :
    heightOfElements elements ≤ n ↔ ∀ element ∈ elements, element.height ≤ n := by
  induction elements with
  | nil => simp [heightOfElements]
  | cons element rest ih => rw [heightOfElements, Nat.max_le, ih, List.forall_mem_cons]

theorem heightOfMembers_le_iff {members : List (Text × Json)} {n : Nat} :
    heightOfMembers members ≤ n ↔ ∀ member ∈ members, member.2.height ≤ n := by
  induction members with
  | nil => simp [heightOfMembers]
  | cons member rest ih => rw [heightOfMembers, Nat.max_le, ih, List.forall_mem_cons]

theorem height_le_heightOfElements {element : Json} {elements : List Json}
    (member : element ∈ elements) : element.height ≤ heightOfElements elements :=
  heightOfElements_le_iff.1 (Nat.le_refl _) element member

theorem height_le_heightOfMembers {member : Text × Json} {members : List (Text × Json)}
    (listed : member ∈ members) : member.2.height ≤ heightOfMembers members :=
  heightOfMembers_le_iff.1 (Nat.le_refl _) member listed

/-! ## Induction -/

@[elab_as_elim]
theorem induction {motive : Json → Prop} (null : motive .null)
    (bool : ∀ value, motive (.bool value)) (number : ∀ value, motive (.number value))
    (string : ∀ value, motive (.string value))
    (array : ∀ elements, (∀ element ∈ elements, motive element) → motive (.array elements))
    (object : ∀ members, (∀ member ∈ members, motive member.2) → motive (.object members))
    (value : Json) : motive value :=
  match value with
  | .null => null
  | .bool value => bool value
  | .number value => number value
  | .string value => string value
  | .array elements => array elements fun element _ =>
      induction null bool number string array object element
  | .object members => object members fun member _ =>
      induction null bool number string array object member.2
termination_by sizeOf value
decreasing_by
  · have smaller := List.sizeOf_lt_of_mem ‹_›
    simp only [Json.array.sizeOf_spec]
    omega
  · have smaller := List.sizeOf_lt_of_mem ‹_›
    have inside : sizeOf member.2 < sizeOf member := by
      obtain ⟨key, inner⟩ := member
      simp only [Prod.mk.sizeOf_spec]
      omega
    simp only [Json.object.sizeOf_spec]
    omega

end Snippet.Json
