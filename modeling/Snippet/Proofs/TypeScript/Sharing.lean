import Snippet.Proofs.Json.Structure
import Snippet.Proofs.TypeScript.NameOrigin
import Snippet.Proofs.TypeScript.TypeText

/-!
# Objects that share an interface

Which objects of a document get the same interface. No shape is recorded twice and no name is given
to two shapes, so two objects share an interface exactly if their fields have the same signature,
whatever happened between the two visits (`interface_shared_iff`).

A signature is written without escapes. Fields can be read back from it if no entry of the one
object can be taken for the start of a different entry of the other, as is the case for keys without
a colon; a key that looks like a whole entry and more makes objects with different fields share an
interface (`imitated_entry_shares`).
-/

namespace Snippet.TypeScript

open Naming (IsName)

/-! ## Objects of a document -/

/-- An object as an inference meets it: its members, the fields that it gets for them, and its
type. -/
structure TypedObject where
  members : List (Text × Json)
  fields : Fields
  type : TypeExpr

def TypedObject.ofVisit (hint : Text) (members : List (Text × Json)) (s : Inference) :
    TypedObject where
  members := members
  fields := (fieldTypes members (s.openObject hint).2).1
  type := (typeOf hint (.object members) s).1

mutual

/-- The objects in a value with their fields and types, each before those inside it. -/
def typedObjects (hint : Text) : Json → Inference → List TypedObject
  | .array elements, s => objectsOfElements (Naming.singular hint) elements s
  | .object members, s =>
    .ofVisit hint members s :: objectsOfMembers members (s.openObject hint).2
  | _, _ => []

def objectsOfElements (hint : Text) : List Json → Inference → List TypedObject
  | [], _ => []
  | element :: rest, s =>
    typedObjects hint element s ++ objectsOfElements hint rest (typeOf hint element s).2

def objectsOfMembers : List (Text × Json) → Inference → List TypedObject
  | [], _ => []
  | (key, value) :: rest, s =>
    typedObjects (Naming.typeName key) value s ++
      objectsOfMembers rest (typeOf (Naming.typeName key) value s).2

end

mutual

theorem map_members_typedObjects (hint : Text) (value : Json) (s : Inference) :
    (typedObjects hint value s).map TypedObject.members = value.nodes.filterMap Json.members? := by
  match value with
  | .null | .bool _ | .number _ | .string _ => rfl
  | .array elements => exact map_members_objectsOfElements (Naming.singular hint) elements s
  | .object members =>
    exact congrArg (members :: ·) (map_members_objectsOfMembers members (s.openObject hint).2)

theorem map_members_objectsOfElements (hint : Text) (elements : List Json) (s : Inference) :
    (objectsOfElements hint elements s).map TypedObject.members =
      (Json.nodesOfElements elements).filterMap Json.members? := by
  match elements with
  | [] => rfl
  | element :: rest =>
    rw [objectsOfElements, List.map_append, Json.nodesOfElements, List.filterMap_append,
      map_members_typedObjects, map_members_objectsOfElements]

theorem map_members_objectsOfMembers (members : List (Text × Json)) (s : Inference) :
    (objectsOfMembers members s).map TypedObject.members =
      (Json.nodesOfMembers members).filterMap Json.members? := by
  match members with
  | [] => rfl
  | (key, value) :: rest =>
    rw [objectsOfMembers, List.map_append, Json.nodesOfMembers, List.filterMap_append,
      map_members_typedObjects, map_members_objectsOfMembers]

end

/-! ## Visits of objects -/

/-- Whether a state has the interfaces and the shapes of another one. -/
structure Grows (s t : Inference) : Prop where
  interfaces : s.interfaces ⊆ t.interfaces
  shapes : s.shapes ⊆ t.shapes

namespace Grows

variable {s t u : Inference}

theorem refl (s : Inference) : Grows s s :=
  ⟨List.Subset.refl _, List.Subset.refl _⟩

theorem trans (first : Grows s t) (second : Grows t u) : Grows s u :=
  ⟨List.Subset.trans first.interfaces second.interfaces,
    List.Subset.trans first.shapes second.shapes⟩

theorem names (grows : Grows s t) : s.names ⊆ t.names :=
  List.map_subset _ grows.interfaces

theorem of_visit {added : List (Option Interface)} (visit : Visit s t added) : Grows s t where
  interfaces := visit.interfaces_subset
  shapes := fun _ listed => visit.shapes.symm.subset (List.mem_append_right _ listed)

theorem elements (hint : Text) (elements : List Json) (s : Inference) :
    Grows s (elementTypes hint elements s).2 := by
  obtain ⟨added, visit⟩ := elementTypes_visit hint elements s
  exact .of_visit visit

theorem members (members : List (Text × Json)) (s : Inference) :
    Grows s (fieldTypes members s).2 := by
  obtain ⟨added, visit⟩ := fieldTypes_visit members s
  exact .of_visit visit

theorem object (hint : Text) (members : List (Text × Json)) (s : Inference) :
    Grows (fieldTypes members (s.openObject hint).2).2 (typeOf hint (.object members) s).2 where
  interfaces := interfaces_subset_object hint members s
  shapes := by
    rw [typeOf_object, Inference.closeObject]
    split
    · exact List.Subset.refl _
    · exact List.subset_cons_self _ _

end Grows

namespace TypedObject

/-- Whether an object was visited, in a consistent state, on the way to a given state. -/
def VisitedBefore (o : TypedObject) (t : Inference) : Prop :=
  ∃ hint s, Consistent s ∧ o = .ofVisit hint o.members s ∧
    Grows (typeOf hint (.object o.members) s).2 t

variable {o : TypedObject} {s t : Inference}

theorem VisitedBefore.mono (visited : o.VisitedBefore s) (grows : Grows s t) :
    o.VisitedBefore t := by
  obtain ⟨hint, start, consistent, outcome, before⟩ := visited
  exact ⟨hint, start, consistent, outcome, before.trans grows⟩

theorem VisitedBefore.over (visited : o.VisitedBefore t) :
    ∀ field ∈ o.fields, field.2.Over (· ∈ t.names) := by
  obtain ⟨hint, s, consistent, outcome, before⟩ := visited
  obtain ⟨_, built⟩ := fieldTypes_consistent o.members (consistent.openObject hint)
  have grown := ((Grows.object hint o.members s).trans before).names
  rw [outcome]
  exact fun field listed => (built field listed).mono fun _ known => grown known

theorem VisitedBefore.keys (visited : o.VisitedBefore t) :
    o.fields.map Prod.fst = o.members.map Prod.fst := by
  obtain ⟨hint, s, _, outcome, _⟩ := visited
  rw [outcome]
  exact map_fst_fieldTypes o.members (s.openObject hint).2

/-- Closing an object leaves its shape recorded under the name of its type. -/
theorem VisitedBefore.recorded (visited : o.VisitedBefore t) :
    ∃ name, o.type = .named name ∧ (signature o.fields, name) ∈ t.shapes := by
  obtain ⟨hint, s, _, outcome, before⟩ := visited
  obtain ⟨name, type, recorded⟩ := get?_shape_of_closed
    (fieldTypes o.members (s.openObject hint).2).2 (s.openObject hint).1 s.slots.length
    (fieldTypes o.members (s.openObject hint).2).1
  rw [← typeOf_object] at type recorded
  rw [outcome]
  exact ⟨name, type, before.shapes (Table.mem_of_get?_eq_some recorded)⟩

end TypedObject

mutual

theorem visitedBefore_of_mem_typedObjects (hint : Text) (value : Json) {s : Inference}
    (consistent : Consistent s) :
    ∀ o ∈ typedObjects hint value s, o.VisitedBefore (typeOf hint value s).2 := by
  match value with
  | .null | .bool _ | .number _ | .string _ => simp [typedObjects]
  | .array elements =>
    rw [typeOf_array]
    exact visitedBefore_of_mem_objectsOfElements (Naming.singular hint) elements consistent
  | .object members =>
    refine List.forall_mem_cons.2 ⟨⟨hint, s, consistent, rfl, .refl _⟩, ?_⟩
    exact fun o inside => (visitedBefore_of_mem_objectsOfMembers members
      (consistent.openObject hint) o inside).mono (.object hint members s)

theorem visitedBefore_of_mem_objectsOfElements (hint : Text) (elements : List Json)
    {s : Inference} (consistent : Consistent s) :
    ∀ o ∈ objectsOfElements hint elements s,
      o.VisitedBefore (elementTypes hint elements s).2 := by
  match elements with
  | [] => simp [objectsOfElements]
  | element :: rest =>
    rw [elementTypes_cons]
    refine List.forall_mem_append.2 ⟨?_, ?_⟩
    · exact fun o first => (visitedBefore_of_mem_typedObjects hint element consistent o first).mono
        (.elements hint rest _)
    · exact visitedBefore_of_mem_objectsOfElements hint rest
        (typeOf_consistent hint element consistent).1

theorem visitedBefore_of_mem_objectsOfMembers (members : List (Text × Json)) {s : Inference}
    (consistent : Consistent s) :
    ∀ o ∈ objectsOfMembers members s, o.VisitedBefore (fieldTypes members s).2 := by
  match members with
  | [] => simp [objectsOfMembers]
  | (key, value) :: rest =>
    rw [fieldTypes_cons]
    refine List.forall_mem_append.2 ⟨?_, ?_⟩
    · exact fun o first => (visitedBefore_of_mem_typedObjects (Naming.typeName key) value
        consistent o first).mono (.members rest _)
    · exact visitedBefore_of_mem_objectsOfMembers rest
        (typeOf_consistent (Naming.typeName key) value consistent).1

end

/-! ## No shape is recorded twice -/

def Inference.ShapesDistinct (s : Inference) : Prop :=
  (Table.keys s.shapes).Nodup

theorem Inference.ShapesDistinct.closeObject {visited : Inference}
    (distinct : visited.ShapesDistinct) (name : Text) (slot : Nat) (fields : Fields) :
    (visited.closeObject name slot fields).2.ShapesDistinct := by
  unfold Inference.closeObject
  split
  · exact distinct
  -- A shape is added only after it was looked for and not found.
  next missing => exact List.nodup_cons.2 ⟨Table.get?_eq_none_iff.1 missing, distinct⟩

theorem Inference.ShapesDistinct.step {s t : Inference} (distinct : s.ShapesDistinct)
    (step : Step s t) : t.ShapesDistinct := by
  cases step with
  | opened => exact distinct
  | closed => exact distinct.closeObject _ _ _

theorem Inference.ShapesDistinct.later {s t : Inference} (distinct : s.ShapesDistinct)
    (later : Later s t) : t.ShapesDistinct := by
  induction later with
  | refl => exact distinct
  | tail _ last ih => exact ih.step last

theorem typeOf_shapesDistinct (hint : Text) (value : Json) {s : Inference}
    (distinct : s.ShapesDistinct) : (typeOf hint value s).2.ShapesDistinct :=
  distinct.later (typeOf_later hint value s)

theorem Consistent.shapeNames_nodup {s : Inference} (consistent : Consistent s) :
    (s.shapes.map Prod.snd).Nodup := by
  have names := consistent.shapes_perm.map Prod.snd
  rw [List.map_map] at names
  exact names.nodup_iff.2 consistent.names_nodup

theorem type_eq_iff_signature_eq {t : Inference} (consistent : Consistent t)
    (distinct : t.ShapesDistinct) {o o' : TypedObject} (visited : o.VisitedBefore t)
    (visited' : o'.VisitedBefore t) :
    o.type = o'.type ↔ signature o.fields = signature o'.fields := by
  obtain ⟨name, type, listed⟩ := visited.recorded
  obtain ⟨name', type', listed'⟩ := visited'.recorded
  -- A name belongs to one shape and a shape to one name, since neither is recorded twice.
  rw [type, type', TypeExpr.named.injEq]
  constructor
  · intro same
    exact congrArg Prod.fst
      (List.inj_on_of_nodup_map consistent.shapeNames_nodup listed listed' same)
  · intro same
    exact congrArg Prod.snd (List.inj_on_of_nodup_map distinct listed listed' same)

/-! ## Documents -/

def documentObjects (root : Text) (document : Json) : List TypedObject :=
  typedObjects (rootHint root document) document {}

theorem visitedBefore_of_mem_documentObjects {root : Text} {document : Json} {o : TypedObject}
    (listed : o ∈ documentObjects root document) :
    o.VisitedBefore (visitRoot root document).2 :=
  visitedBefore_of_mem_typedObjects _ document .start o listed

/-- The fields of objects have types that are built from names, also if the name of a root object is
none. -/
theorem over_isName_of_mem_documentObjects {root : Text} (valid : Text.isIdentifier root = true)
    {document : Json} {o : TypedObject} (listed : o ∈ documentObjects root document) :
    ∀ field ∈ o.fields, field.2.Over IsName := by
  intro field inFields
  cases document with
  | null | bool | number | string | array =>
    exact ((visitedBefore_of_mem_documentObjects listed).over field inFields).mono
      (visitRoot_isName valid nofun)
  -- The root may be named by a word of the type language, so the state at the end is not used:
  -- no field mentions the name of the root.
  | object members =>
    have opened := Consistent.start.openObject root
    rcases List.mem_cons.1 listed with rfl | inside
    · obtain ⟨_, built⟩ := fieldTypes_consistent members opened
      exact (built field inFields).mono (fieldTypes_isName root members)
    · have visited := visitedBefore_of_mem_objectsOfMembers members opened o inside
      exact (visited.over field inFields).mono (fieldTypes_isName root members)

theorem distinguishable_of_colonFree_members {root : Text} (valid : Text.isIdentifier root = true)
    {document : Json} {o o' : TypedObject} (listed : o ∈ documentObjects root document)
    (listed' : o' ∈ documentObjects root document) (colonFree : ∀ member ∈ o.members, ':' ∉ member.1)
    (colonFree' : ∀ member ∈ o'.members, ':' ∉ member.1) : Distinguishable o.fields o'.fields := by
  have keys : ∀ field ∈ o.fields, ':' ∉ field.1 :=
    forall_key_of_members (p := (':' ∉ ·)) (visitedBefore_of_mem_documentObjects listed).keys
      colonFree
  have keys' : ∀ field ∈ o'.fields, ':' ∉ field.1 :=
    forall_key_of_members (p := (':' ∉ ·)) (visitedBefore_of_mem_documentObjects listed').keys
      colonFree'
  exact distinguishable_of_colonFree keys keys'
    (over_isName_of_mem_documentObjects valid listed)
    (over_isName_of_mem_documentObjects valid listed')

/-- Two objects of a document share an interface exactly if their fields have one signature. If no
entry of the one can be taken for the start of a different entry of the other, in particular if their
keys have no colon, this means that they have the same keys with the same types in the same order. -/
theorem interface_shared_iff (root : Text) (document : Json) :
    (documentObjects root document).map TypedObject.members =
        document.nodes.filterMap Json.members? ∧
      ∀ o ∈ documentObjects root document, ∀ o' ∈ documentObjects root document,
        o.fields.map Prod.fst = o.members.map Prod.fst ∧ (∃ name, o.type = .named name) ∧
        (o.type = o'.type ↔ signature o.fields = signature o'.fields) ∧
        (Distinguishable o.fields o'.fields → (o.type = o'.type ↔ o.fields = o'.fields)) ∧
        (Text.isIdentifier root = true → (∀ member ∈ o.members, ':' ∉ member.1) →
          (∀ member ∈ o'.members, ':' ∉ member.1) →
          (o.type = o'.type ↔ o.fields = o'.fields)) := by
  refine ⟨map_members_typedObjects _ document {}, fun o listed o' listed' => ?_⟩
  have visited := visitedBefore_of_mem_documentObjects listed
  have visited' := visitedBefore_of_mem_documentObjects listed'
  obtain ⟨name, type, _⟩ := visited.recorded
  have shared : o.type = o'.type ↔ signature o.fields = signature o'.fields :=
    type_eq_iff_signature_eq (typeOf_consistent _ document .start).1
      (typeOf_shapesDistinct _ document List.nodup_nil) visited visited'
  have same (apart : Distinguishable o.fields o'.fields) :
      o.type = o'.type ↔ o.fields = o'.fields :=
    shared.trans ⟨signature_inj_of_distinguishable apart, congrArg signature⟩
  exact ⟨visited.keys, ⟨name, type⟩, shared, same, fun valid colonFree colonFree' =>
    same (distinguishable_of_colonFree_members valid listed listed' colonFree colonFree')⟩

/-- A colon in a key is no harm as long as no entry of the other object can be read from it. The two
objects with the one key `at` share an interface, and the object with the key `at:noon` has another
one. -/
theorem colon_in_key_kept_apart :
    let root : Text := "RootObject"
    let document : Json := .object [("start", .object [("at:noon", .null)]),
      ("end", .object [("at", .null)]), ("pause", .object [("at", .null)])]
    ∃ a ∈ documentObjects root document, ∃ b ∈ documentObjects root document,
      ∃ c ∈ documentObjects root document,
        Text.isIdentifier root = true ∧ Distinguishable a.fields b.fields ∧
        (∀ member ∈ b.members, ':' ∉ member.1) ∧ (∀ member ∈ c.members, ':' ∉ member.1) ∧
        a.type ≠ b.type ∧ b.type = c.type ∧ b.fields = c.fields := by
  intro root document
  let object (i : Fin 4) : TypedObject :=
    (documentObjects root document).get (i.castLE (by decide +kernel))
  have listed (i : Fin 4) : object i ∈ documentObjects root document := List.get_mem _ _
  have valid : Text.isIdentifier root = true := by decide
  have apart : ∀ field ∈ (object 1).fields, ∀ field' ∈ (object 2).fields,
      ¬ Text.StartsAlike (entryText field) (entryText field') := by decide +kernel
  have distinguishable : Distinguishable (object 1).fields (object 2).fields :=
    fun field inFields field' inFields' alike => absurd alike (apart field inFields field' inFields')
  have colonFree : ∀ member ∈ (object 2).members, ':' ∉ member.1 := by decide +kernel
  have colonFree' : ∀ member ∈ (object 3).members, ':' ∉ member.1 := by decide +kernel
  have shared := (interface_shared_iff root document).2
  obtain ⟨_, _, _, different, _⟩ := shared (object 1) (listed 1) (object 2) (listed 2)
  obtain ⟨_, _, bySignature, _, same⟩ := shared (object 2) (listed 2) (object 3) (listed 3)
  have types : (object 2).type = (object 3).type := bySignature.2 (by decide +kernel)
  refine ⟨_, listed 1, _, listed 2, _, listed 3, valid, distinguishable, colonFree, colonFree', ?_,
    types, (same valid colonFree colonFree').1 types⟩
  intro equal
  have keys := congrArg (List.map Prod.fst) ((different distinguishable).1 equal)
  exact absurd keys (by decide +kernel)

/-- A key that looks like an entry and the start of another one: the object with this one key shares
the interface of the object with two keys. -/
theorem imitated_entry_shares :
    let root : Text := "RootObject"
    let document : Json := .object [("p", .object [("x:number;y", .string "s")]),
      ("q", .object [("x", .number ⟨false, 1, [], none⟩), ("y", .string "s")])]
    ∃ o ∈ documentObjects root document, ∃ o' ∈ documentObjects root document,
      o.type = o'.type ∧ o.fields.map Prod.fst ≠ o'.fields.map Prod.fst := by
  intro root document
  let object (i : Fin 3) : TypedObject :=
    (documentObjects root document).get (i.castLE (by decide +kernel))
  have listed (i : Fin 3) : object i ∈ documentObjects root document := List.get_mem _ _
  refine ⟨object 1, listed 1, object 2, listed 2, ?_, by decide +kernel⟩
  rw [type_eq_iff_signature_eq (typeOf_consistent _ document .start).1
    (typeOf_shapesDistinct _ document List.nodup_nil)
    (visitedBefore_of_mem_documentObjects (listed 1))
    (visitedBefore_of_mem_documentObjects (listed 2))]
  decide +kernel

end Snippet.TypeScript
