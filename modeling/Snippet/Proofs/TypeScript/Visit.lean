import Mathlib.Logic.Relation
import Snippet.Proofs.TypeScript.FreshName

/-!
# What a visit changes

An inference visits a value and hands its state on, in steps that open an object or close one. All
that a visit does to the state is to put slots behind those there are; the names that are taken and
the shapes that are known grow by those of the interfaces in the new slots. A name that was taken for
an object and is not used is free again at the end of the object's visit.
-/

namespace Snippet.TypeScript

/-! ## Visits step by step -/

theorem typeOf_array (hint : Text) (elements : List Json) (s : Inference) :
    typeOf hint (.array elements) s =
      (arrayType (elementTypes (Naming.singular hint) elements s).1,
        (elementTypes (Naming.singular hint) elements s).2) := by
  simp only [typeOf]

theorem typeOf_object (hint : Text) (members : List (Text × Json)) (s : Inference) :
    typeOf hint (.object members) s =
      (fieldTypes members (s.openObject hint).2).2.closeObject (s.openObject hint).1
        s.slots.length (fieldTypes members (s.openObject hint).2).1 := by
  simp only [typeOf]

theorem elementTypes_cons (hint : Text) (element : Json) (rest : List Json) (s : Inference) :
    elementTypes hint (element :: rest) s =
      ((typeOf hint element s).1 :: (elementTypes hint rest (typeOf hint element s).2).1,
        (elementTypes hint rest (typeOf hint element s).2).2) := by
  simp only [elementTypes]

theorem fieldTypes_cons (key : Text) (value : Json) (rest : List (Text × Json)) (s : Inference) :
    fieldTypes ((key, value) :: rest) s =
      ((key, (typeOf (Naming.typeName key) value s).1) ::
          (fieldTypes rest (typeOf (Naming.typeName key) value s).2).1,
        (fieldTypes rest (typeOf (Naming.typeName key) value s).2).2) := by
  simp only [fieldTypes]

theorem map_fst_fieldTypes (members : List (Text × Json)) (s : Inference) :
    (fieldTypes members s).1.map Prod.fst = members.map Prod.fst := by
  induction members generalizing s with
  | nil => simp [fieldTypes]
  | cons member rest ih =>
    obtain ⟨key, value⟩ := member
    simp [fieldTypes_cons, ih]

theorem forall_key_of_members {members : List (Text × Json)} {fields : Fields} {p : Text → Prop}
    (keys : fields.map Prod.fst = members.map Prod.fst) (each : ∀ member ∈ members, p member.1) :
    ∀ field ∈ fields, p field.1 := by
  intro field inFields
  have inKeys := List.mem_map_of_mem (f := Prod.fst) inFields
  rw [keys] at inKeys
  obtain ⟨member, inMembers, key⟩ := List.mem_map.1 inKeys
  exact key ▸ each member inMembers

/-! ## The visit of a document -/

def rootHint (root : Text) : Json → Text
  | .array _ => root ++ "Item"
  | _ => root

def visitRoot (root : Text) (document : Json) : TypeExpr × Inference :=
  typeOf (rootHint root document) document {}

theorem infer_interfaces (root : Text) (document : Json) :
    (infer root document).interfaces = (visitRoot root document).2.interfaces := by
  cases document with
  | array elements =>
    simp only [infer, visitRoot, rootHint, typeOf_array, Naming.singular_append_item]
  | null | bool | number | string | object => rfl

theorem infer_root (root : Text) (document : Json) :
    (infer root document).root =
      match document with
      | .object _ => none
      | _ => some (root, (visitRoot root document).1) := by
  cases document with
  | array elements =>
    simp only [infer, visitRoot, rootHint, typeOf_array, Naming.singular_append_item]
  | null | bool | number | string | object => rfl

theorem infer_root_of_ne_object {root : Text} {document : Json}
    (other : ∀ members, document ≠ .object members) :
    (infer root document).root = some (root, (visitRoot root document).1) := by
  rw [infer_root]
  cases document with
  | object members => exact absurd rfl (other members)
  | null | bool | number | string | array => rfl

/-! ## Interfaces, names and shapes -/

def Inference.names (s : Inference) : List Text :=
  s.interfaces.map Interface.name

def Interface.shape (i : Interface) : Text × Text :=
  (signature i.fields, i.name)

/-- What a visit changes in a state: the slots that it adds, and what follows from them. -/
structure Visit (s t : Inference) (added : List (Option Interface)) : Prop where
  slots : t.slots = s.slots ++ added
  taken : t.taken.Perm ((added.filterMap id).map Interface.name ++ s.taken)
  shapes : t.shapes.Perm ((added.filterMap id).map Interface.shape ++ s.shapes)
  nodup : s.taken.Nodup → t.taken.Nodup

namespace Visit

variable {s t u : Inference} {added more : List (Option Interface)}

theorem refl (s : Inference) : Visit s s [] where
  slots := by simp
  taken := by simp
  shapes := by simp
  nodup := id

theorem trans (first : Visit s t added) (second : Visit t u more) :
    Visit s u (added ++ more) where
  slots := by rw [second.slots, first.slots, List.append_assoc]
  taken := by
    rw [List.filterMap_append, List.map_append, List.append_assoc]
    -- The names of the second visit come to stand in front of those of the first.
    refine second.taken.trans ((first.taken.append_left _).trans ?_)
    rw [← List.append_assoc, ← List.append_assoc]
    exact List.perm_append_comm.append_right _
  shapes := by
    rw [List.filterMap_append, List.map_append, List.append_assoc]
    refine second.shapes.trans ((first.shapes.append_left _).trans ?_)
    rw [← List.append_assoc, ← List.append_assoc]
    exact List.perm_append_comm.append_right _
  nodup := fun distinct => second.nodup (first.nodup distinct)

theorem interfaces (visit : Visit s t added) :
    t.interfaces = s.interfaces ++ added.filterMap id := by
  rw [Inference.interfaces, visit.slots, List.filterMap_append]
  rfl

theorem names (visit : Visit s t added) :
    t.names = s.names ++ (added.filterMap id).map Interface.name := by
  rw [Inference.names, visit.interfaces, List.map_append]
  rfl

theorem interfaces_subset (visit : Visit s t added) : s.interfaces ⊆ t.interfaces := by
  rw [visit.interfaces]
  exact List.subset_append_left _ _

theorem names_subset (visit : Visit s t added) : s.names ⊆ t.names := by
  rw [visit.names]
  exact List.subset_append_left _ _

end Visit

/-! ## Visits of objects -/

section Objects

variable {s visited : Inference} {hint : Text} {added : List (Option Interface)}

/-- What the slots, names and shapes are before an object is closed: its own slot is still empty and
its name is taken. -/
theorem slots_of_members (members : Visit (s.openObject hint).2 visited added) :
    visited.slots = s.slots ++ none :: added := by
  rw [members.slots]
  simp [Inference.openObject]

theorem taken_of_members (members : Visit (s.openObject hint).2 visited added) :
    visited.taken.Perm ((s.openObject hint).1 ::
      ((added.filterMap id).map Interface.name ++ s.taken)) :=
  members.taken.trans List.perm_middle

theorem nodup_openObject (distinct : s.taken.Nodup) : (s.openObject hint).2.taken.Nodup :=
  List.nodup_cons.2 ⟨freshName_notMem hint s.taken, distinct⟩

/-- The two ways in which an object is closed. If its shape is known it gets the type of that shape
and its slot stays empty; otherwise the slot is filled with an interface of its own. -/
theorem close_cases (fields : Fields) (members : Visit (s.openObject hint).2 visited added) :
    (∃ known, (signature fields, known) ∈ visited.shapes ∧
        (visited.closeObject (s.openObject hint).1 s.slots.length fields).1 = .named known ∧
        Visit s (visited.closeObject (s.openObject hint).1 s.slots.length fields).2
          (none :: added)) ∨
      (signature fields ∉ Table.keys visited.shapes ∧
        (visited.closeObject (s.openObject hint).1 s.slots.length fields).1 =
          .named (s.openObject hint).1 ∧
        Visit s (visited.closeObject (s.openObject hint).1 s.slots.length fields).2
          (some ⟨(s.openObject hint).1, fields⟩ :: added)) := by
  have slots := slots_of_members members
  have taken := taken_of_members members
  cases found : Table.get? (signature fields) visited.shapes with
  | some known =>
    -- The slot stays empty and the name is given back.
    refine Or.inl ⟨known, Table.mem_of_get?_eq_some found, ?_, ?_⟩
    · simp [Inference.closeObject, found]
    · constructor
      · simp only [Inference.closeObject, found, slots]
      · have erased := taken.erase (s.openObject hint).1
        rw [List.erase_cons_head] at erased
        simp only [Inference.closeObject, found]
        exact erased
      · simp only [Inference.closeObject, found]
        exact members.shapes
      · intro distinct
        simp only [Inference.closeObject, found]
        exact (members.nodup (nodup_openObject distinct)).erase _
  | none =>
    refine Or.inr ⟨Table.get?_eq_none_iff.1 found, ?_, ?_⟩
    · simp [Inference.closeObject, found]
    · constructor
      -- The slot of the object is the first behind those of the state before.
      · simp only [Inference.closeObject, found, slots]
        rw [List.set_append_right _ _ (Nat.le_refl _)]
        simp
      · simpa [Inference.closeObject, found] using taken
      · simp only [Inference.closeObject, found]
        exact members.shapes.cons (signature fields, (s.openObject hint).1)
      · intro distinct
        simp only [Inference.closeObject, found]
        exact members.nodup (nodup_openObject distinct)

theorem get?_shape_of_closed (s : Inference) (name : Text) (slot : Nat) (fields : Fields) :
    ∃ known, (s.closeObject name slot fields).1 = .named known ∧
      Table.get? (signature fields) (s.closeObject name slot fields).2.shapes = some known := by
  -- A shape that is found keeps its name, and a new one is put in front.
  unfold Inference.closeObject
  split
  next known found => exact ⟨known, rfl, found⟩
  next => exact ⟨name, rfl, by simp [Table.get?]⟩

@[simp] theorem interfaces_openObject (s : Inference) (hint : Text) :
    (s.openObject hint).2.interfaces = s.interfaces := by
  simp [Inference.interfaces, Inference.openObject]

@[simp] theorem names_openObject (s : Inference) (hint : Text) :
    (s.openObject hint).2.names = s.names := by
  rw [Inference.names, interfaces_openObject, Inference.names]

theorem interfaces_of_known {closed : Inference}
    (members : Visit (s.openObject hint).2 visited added)
    (known : Visit s closed (none :: added)) : closed.interfaces = visited.interfaces := by
  rw [known.interfaces, members.interfaces, interfaces_openObject]
  rfl

theorem mem_interfaces_of_new {closed : Inference} {i j : Interface}
    (members : Visit (s.openObject hint).2 visited added)
    (new : Visit s closed (some i :: added)) :
    j ∈ closed.interfaces ↔ j = i ∨ j ∈ visited.interfaces := by
  rw [new.interfaces, members.interfaces, interfaces_openObject]
  have filled : (some i :: added).filterMap id = i :: added.filterMap id := rfl
  rw [filled]
  simp only [List.mem_append, List.mem_cons]
  constructor
  · rintro (old | same | inside)
    · exact Or.inr (Or.inl old)
    · exact Or.inl same
    · exact Or.inr (Or.inr inside)
  · rintro (same | old | inside)
    · exact Or.inr (Or.inl same)
    · exact Or.inl old
    · exact Or.inr (Or.inr inside)

theorem interfaces_subset_closed (fields : Fields)
    (members : Visit (s.openObject hint).2 visited added) :
    visited.interfaces ⊆
      (visited.closeObject (s.openObject hint).1 s.slots.length fields).2.interfaces := by
  rcases close_cases fields members with ⟨_, _, _, closed⟩ | ⟨_, _, closed⟩
  · rw [interfaces_of_known members closed]
    exact List.Subset.refl _
  · exact fun j inside => (mem_interfaces_of_new members closed).2 (Or.inr inside)

end Objects

/-! ## Every visit is made of steps -/

namespace Inference

/-- A step of an inference: it opens an object or closes one. -/
inductive Step : Inference → Inference → Prop
  | opened (s : Inference) (hint : Text) : Step s (s.openObject hint).2
  | closed (s : Inference) (name : Text) (slot : Nat) (fields : Fields) :
      Step s (s.closeObject name slot fields).2

abbrev Later : Inference → Inference → Prop :=
  Relation.ReflTransGen Step

end Inference

open Inference (Step Later)

mutual

theorem typeOf_later (hint : Text) (value : Json) (s : Inference) :
    Later s (typeOf hint value s).2 := by
  match value with
  | .null | .bool _ | .number _ | .string _ => exact .refl
  | .array elements =>
    rw [typeOf_array]
    exact elementTypes_later (Naming.singular hint) elements s
  | .object members =>
    rw [typeOf_object]
    have inside := fieldTypes_later members (s.openObject hint).2
    -- The members are visited between the two steps of the object.
    exact .tail (.head (.opened s hint) inside) (.closed _ _ _ _)

theorem elementTypes_later (hint : Text) (elements : List Json) (s : Inference) :
    Later s (elementTypes hint elements s).2 := by
  match elements with
  | [] => exact .refl
  | element :: rest =>
    rw [elementTypes_cons]
    exact (typeOf_later hint element s).trans (elementTypes_later hint rest _)

theorem fieldTypes_later (members : List (Text × Json)) (s : Inference) :
    Later s (fieldTypes members s).2 := by
  match members with
  | [] => exact .refl
  | (key, value) :: rest =>
    rw [fieldTypes_cons]
    exact (typeOf_later (Naming.typeName key) value s).trans (fieldTypes_later rest _)

end

/-! ## Every visit only adds -/

mutual

theorem typeOf_visit (hint : Text) (value : Json) (s : Inference) :
    ∃ added, Visit s (typeOf hint value s).2 added := by
  match value with
  | .null | .bool _ | .number _ | .string _ => exact ⟨[], .refl s⟩
  | .array elements =>
    rw [typeOf_array]
    exact elementTypes_visit (Naming.singular hint) elements s
  | .object members =>
    obtain ⟨added, visit⟩ := fieldTypes_visit members (s.openObject hint).2
    rw [typeOf_object]
    -- The slot of the object comes before those from inside it, empty or filled.
    rcases close_cases _ visit with ⟨known, _, _, closed⟩ | ⟨_, _, closed⟩
    · exact ⟨_, closed⟩
    · exact ⟨_, closed⟩

theorem elementTypes_visit (hint : Text) (elements : List Json) (s : Inference) :
    ∃ added, Visit s (elementTypes hint elements s).2 added := by
  match elements with
  | [] => exact ⟨[], .refl s⟩
  | element :: rest =>
    obtain ⟨added, first⟩ := typeOf_visit hint element s
    obtain ⟨more, others⟩ := elementTypes_visit hint rest (typeOf hint element s).2
    rw [elementTypes_cons]
    exact ⟨added ++ more, first.trans others⟩

theorem fieldTypes_visit (members : List (Text × Json)) (s : Inference) :
    ∃ added, Visit s (fieldTypes members s).2 added := by
  match members with
  | [] => exact ⟨[], .refl s⟩
  | (key, value) :: rest =>
    obtain ⟨added, first⟩ := typeOf_visit (Naming.typeName key) value s
    obtain ⟨more, others⟩ := fieldTypes_visit rest (typeOf (Naming.typeName key) value s).2
    rw [fieldTypes_cons]
    exact ⟨added ++ more, first.trans others⟩

end

theorem interfaces_subset_object (hint : Text) (members : List (Text × Json)) (s : Inference) :
    (fieldTypes members (s.openObject hint).2).2.interfaces ⊆
      (typeOf hint (.object members) s).2.interfaces := by
  obtain ⟨added, visit⟩ := fieldTypes_visit members (s.openObject hint).2
  rw [typeOf_object]
  exact interfaces_subset_closed _ visit

end Snippet.TypeScript
