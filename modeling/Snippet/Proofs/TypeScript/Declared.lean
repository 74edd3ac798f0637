import Snippet.Proofs.Distinct
import Snippet.Proofs.TypeScript.Visit

/-!
# Every name that is mentioned is declared

A type mentions the names of interfaces. At every moment of an inference the names of the interfaces
there are differ from each other, and the types of their fields mention these names only. The name
of an object whose interface is not decided yet is mentioned nowhere, and neither is one that was
taken for an object and given back; `interfaces_declared_once` states this for whole documents.
-/

namespace Snippet.TypeScript

/-- The types that are built from the scalars and from names of a given kind; the array of no type
counts as built from nothing. -/
inductive TypeExpr.Over (p : Text → Prop) : TypeExpr → Prop
  | null : Over p .null
  | boolean : Over p .boolean
  | number : Over p .number
  | string : Over p .string
  | array {members : List TypeExpr} (each : ∀ member ∈ members, Over p member) :
      Over p (.array members)
  | named {name : Text} (known : p name) : Over p (.named name)

theorem TypeExpr.Over.mono {p q : Text → Prop} {type : TypeExpr} (built : type.Over p)
    (weaker : ∀ name, p name → q name) : type.Over q := by
  induction built with
  | null => exact .null
  | boolean => exact .boolean
  | number => exact .number
  | string => exact .string
  | array _ ih => exact .array ih
  | named known => exact .named (weaker _ known)

/-! ## Members of an array type -/

theorem mem_of_mem_arrayMembers {types : List TypeExpr} {type : TypeExpr}
    (member : type ∈ types.eraseDupsBy fun a b => a.text == b.text) : type ∈ types := by
  induction types using List.reverseRecOn with
  | nil => exact member
  | append_singleton types last ih =>
    rw [eraseDupsBy_concat TypeExpr.text] at member
    split at member
    · exact List.mem_append_left _ (ih member)
    · cases List.mem_append.1 member with
      | inl earlier => exact List.mem_append_left _ (ih earlier)
      | inr here => exact List.mem_append_right _ here

theorem over_arrayType {p : Text → Prop} {types : List TypeExpr}
    (each : ∀ type ∈ types, type.Over p) : (arrayType types).Over p :=
  .array fun type member => each type (mem_of_mem_arrayMembers member)

/-! ## Consistent states -/

/-- The fields of all interfaces of a state have types over names of a given kind. -/
def Inference.FieldsOver (s : Inference) (p : Text → Prop) : Prop :=
  ∀ i ∈ s.interfaces, ∀ field ∈ i.fields, field.2.Over p

/-- The invariant of an inference: no name is taken twice, every interface holds its name, the
shapes are those of the interfaces, and no field mentions a name that is not declared. -/
structure Consistent (s : Inference) : Prop where
  taken_nodup : s.taken.Nodup
  names_taken : s.names.Subperm s.taken
  shapes_perm : s.shapes.Perm (s.interfaces.map Interface.shape)
  declared : s.FieldsOver (· ∈ s.names)

namespace Consistent

variable {s t : Inference} {added : List (Option Interface)}

theorem start : Consistent {} where
  taken_nodup := List.nodup_nil
  names_taken := List.nil_subperm
  shapes_perm := .refl _
  declared := by simp [Inference.FieldsOver, Inference.interfaces]

theorem names_nodup (consistent : Consistent s) : s.names.Nodup := by
  obtain ⟨chosen, same, sub⟩ := consistent.names_taken
  exact same.nodup_iff.1 (consistent.taken_nodup.sublist sub)

theorem taken_of_mem_names (consistent : Consistent s) {name : Text} (member : name ∈ s.names) :
    name ∈ s.taken :=
  consistent.names_taken.subset member

theorem exists_interface (consistent : Consistent s) {fields : Fields} {known : Text}
    (listed : (signature fields, known) ∈ s.shapes) :
    ∃ i ∈ s.interfaces, i.name = known ∧ signature i.fields = signature fields := by
  obtain ⟨i, member, shape⟩ := List.mem_map.1 (consistent.shapes_perm.subset listed)
  obtain ⟨same, name⟩ := Prod.mk.inj shape
  exact ⟨i, member, name, same⟩

theorem openObject (consistent : Consistent s) (hint : Text) :
    Consistent (s.openObject hint).2 := by
  constructor
  · exact nodup_openObject consistent.taken_nodup
  · rw [names_openObject]
    exact consistent.names_taken.trans (List.sublist_cons_self _ _).subperm
  · rw [interfaces_openObject]
    exact consistent.shapes_perm
  · intro i member
    rw [interfaces_openObject] at member
    rw [names_openObject]
    exact consistent.declared i member

/-- A visit keeps a state consistent if the fields that it adds mention declared names only. -/
theorem visit (consistent : Consistent s) (visit : Visit s t added)
    (declared : t.FieldsOver (· ∈ t.names)) : Consistent t where
  taken_nodup := visit.nodup consistent.taken_nodup
  names_taken := by
    rw [visit.names]
    -- What the visit adds is added to both sides.
    refine List.Subperm.trans ?_ visit.taken.symm.subperm
    refine List.perm_append_comm.subperm.trans ?_
    exact (List.subperm_append_left _).2 consistent.names_taken
  shapes_perm := by
    rw [visit.interfaces, List.map_append]
    exact visit.shapes.trans
      ((consistent.shapes_perm.append_left _).trans List.perm_append_comm)
  declared := declared

/-- Closing an object keeps a state consistent, and the object's type is declared. -/
theorem closeObject {visited : Inference} {hint : Text} {fields : Fields}
    (consistent : Consistent s) (members : Visit (s.openObject hint).2 visited added)
    (inside : Consistent visited) (built : ∀ field ∈ fields, field.2.Over (· ∈ visited.names)) :
    let closed := visited.closeObject (s.openObject hint).1 s.slots.length fields
    Consistent closed.2 ∧ closed.1.Over (· ∈ closed.2.names) := by
  intro closed
  rcases close_cases fields members with ⟨known, listed, type, visit⟩ | ⟨_, type, visit⟩
  -- The object's own name is not declared, but its type is one that was declared before.
  · have interfaces := interfaces_of_known members visit
    have names : closed.2.names = visited.names := congrArg (List.map Interface.name) interfaces
    refine ⟨consistent.visit visit ?_, ?_⟩
    · intro i member
      rw [names]
      exact inside.declared i (interfaces ▸ member)
    · obtain ⟨i, member, name, _⟩ := inside.exists_interface listed
      rw [type, names]
      exact .named (List.mem_map.2 ⟨i, member, name⟩)
  -- The object's own name is declared now, and its fields mention names from inside it.
  · have grown : visited.names ⊆ closed.2.names :=
      List.map_subset _ (interfaces_subset_closed fields members)
    refine ⟨consistent.visit visit ?_, ?_⟩
    · intro i member
      cases (mem_interfaces_of_new members visit).1 member with
      | inl same =>
        subst same
        exact fun field listed => (built field listed).mono fun _ known => grown known
      | inr old =>
        exact fun field listed =>
          (inside.declared i old field listed).mono fun _ known => grown known
    · rw [type]
      exact .named (List.mem_map_of_mem ((mem_interfaces_of_new members visit).2 (Or.inl rfl)))

end Consistent

mutual

/-- A visit keeps a state consistent and gives a type that mentions declared names only. -/
theorem typeOf_consistent (hint : Text) (value : Json) {s : Inference}
    (consistent : Consistent s) :
    Consistent (typeOf hint value s).2 ∧
      (typeOf hint value s).1.Over (· ∈ (typeOf hint value s).2.names) := by
  match value with
  | .null => exact ⟨consistent, .null⟩
  | .bool _ => exact ⟨consistent, .boolean⟩
  | .number _ => exact ⟨consistent, .number⟩
  | .string _ => exact ⟨consistent, .string⟩
  | .array elements =>
    rw [typeOf_array]
    obtain ⟨visited, each⟩ := elementTypes_consistent (Naming.singular hint) elements consistent
    -- Joining types of one text adds no names.
    exact ⟨visited, over_arrayType each⟩
  | .object members =>
    rw [typeOf_object]
    obtain ⟨added, visit⟩ := fieldTypes_visit members (s.openObject hint).2
    obtain ⟨visited, built⟩ := fieldTypes_consistent members (consistent.openObject hint)
    exact consistent.closeObject visit visited built

theorem elementTypes_consistent (hint : Text) (elements : List Json) {s : Inference}
    (consistent : Consistent s) :
    Consistent (elementTypes hint elements s).2 ∧
      ∀ type ∈ (elementTypes hint elements s).1,
        type.Over (· ∈ (elementTypes hint elements s).2.names) := by
  match elements with
  | [] => exact ⟨consistent, by simp [elementTypes]⟩
  | element :: rest =>
    rw [elementTypes_cons]
    obtain ⟨first, built⟩ := typeOf_consistent hint element consistent
    obtain ⟨last, each⟩ := elementTypes_consistent hint rest first
    -- What the first type mentions is still declared when the others are known.
    obtain ⟨added, visit⟩ := elementTypes_visit hint rest (typeOf hint element s).2
    refine ⟨last, ?_⟩
    intro type member
    cases List.mem_cons.1 member with
    | inl same =>
      subst same
      exact built.mono fun _ known => visit.names_subset known
    | inr later =>
      exact each type later

theorem fieldTypes_consistent (members : List (Text × Json)) {s : Inference}
    (consistent : Consistent s) :
    Consistent (fieldTypes members s).2 ∧
      ∀ field ∈ (fieldTypes members s).1, field.2.Over (· ∈ (fieldTypes members s).2.names) := by
  match members with
  | [] => exact ⟨consistent, by simp [fieldTypes]⟩
  | (key, value) :: rest =>
    rw [fieldTypes_cons]
    obtain ⟨first, built⟩ := typeOf_consistent (Naming.typeName key) value consistent
    obtain ⟨last, each⟩ := fieldTypes_consistent rest first
    obtain ⟨added, visit⟩ := fieldTypes_visit rest (typeOf (Naming.typeName key) value s).2
    refine ⟨last, ?_⟩
    intro field member
    cases List.mem_cons.1 member with
    | inl same =>
      subst same
      exact built.mono fun _ known => visit.names_subset known
    | inr later =>
      exact each field later

end

/-! ## Reachable states -/

/-- The states that an inference goes through: those in which it visits a value, be it the root or
a value inside objects that are still open. -/
inductive Reachable : Inference → Prop
  | start : Reachable {}
  | opened {s : Inference} (hint : Text) : Reachable s → Reachable (s.openObject hint).2
  | visited {s : Inference} (hint : Text) (value : Json) :
      Reachable s → Reachable (typeOf hint value s).2

theorem Reachable.consistent {s : Inference} (reachable : Reachable s) : Consistent s := by
  induction reachable with
  | start => exact .start
  | opened hint _ ih => exact ih.openObject hint
  | visited hint value _ ih => exact (typeOf_consistent hint value ih).1

/-! ## Documents -/

/-- The interfaces of a document differ in their names, and whatever type it has, for a field, for
an alias or for the whole, mentions these names only. The same holds of every state on the way: what
is mentioned is declared by then, and a name that is free again after an object took it is mentioned
nowhere. -/
theorem interfaces_declared_once (root : Text) (document : Json) :
    ((infer root document).interfaces.map Interface.name).Nodup ∧
      (∀ i ∈ (infer root document).interfaces, ∀ field ∈ i.fields,
        field.2.Over (· ∈ (infer root document).interfaces.map Interface.name)) ∧
      (∀ entry ∈ (infer root document).root,
        entry.2.Over (· ∈ (infer root document).interfaces.map Interface.name)) ∧
      (visitRoot root document).1.Over
        (· ∈ (infer root document).interfaces.map Interface.name) ∧
      ∀ s, Reachable s →
        s.FieldsOver (· ∈ s.names) ∧
        (∀ hint value, (typeOf hint value s).1.Over (· ∈ (typeOf hint value s).2.names)) ∧
        ∀ hint members,
          (s.openObject hint).1 ∉ (typeOf hint (.object members) s).2.taken →
            (typeOf hint (.object members) s).1.Over (· ≠ (s.openObject hint).1) ∧
            (typeOf hint (.object members) s).2.FieldsOver (· ≠ (s.openObject hint).1) := by
  rw [infer_interfaces]
  obtain ⟨consistent, built⟩ := typeOf_consistent (rootHint root document) document .start
  refine ⟨consistent.names_nodup, consistent.declared, ?_, built, ?_⟩
  · intro entry given
    rw [infer_root] at given
    cases document with
    | object => simp at given
    | null | bool | number | string | array =>
      obtain rfl := Option.some.inj given
      exact built
  · intro s reachable
    have now := reachable.consistent
    refine ⟨now.declared, fun hint value => (typeOf_consistent hint value now).2, ?_⟩
    intro hint members free
    obtain ⟨closed, type⟩ := typeOf_consistent hint (.object members) now
    -- What is declared is taken, so a free name is none of the declared ones.
    have other : ∀ name ∈ (typeOf hint (.object members) s).2.names,
        name ≠ (s.openObject hint).1 := by
      rintro name declared rfl
      exact free (closed.taken_of_mem_names declared)
    exact ⟨type.mono other, fun i member field listed =>
      (closed.declared i member field listed).mono other⟩

/-- Inside a root object, the name `Work` is free again after an object of the shape of `Home` took
it. -/
theorem work_mentioned_nowhere :
    let city : Json := .object [("city", .null)]
    let s := (typeOf "Home" city (({} : Inference).openObject "RootObject").2).2
    Reachable s ∧ ("Work" : Text) ∉ (typeOf "Work" city s).2.taken ∧
      (typeOf "Work" city s).1.Over (· ≠ "Work") ∧
      (typeOf "Work" city s).2.FieldsOver (· ≠ "Work") := by
  intro city s
  have reachable : Reachable s := .visited "Home" city (.opened "RootObject" .start)
  have free : ("Work" : Text) ∉ (typeOf "Work" city s).2.taken := by decide
  have sound := ((interfaces_declared_once "RootObject" .null).2.2.2.2 s reachable).2.2
    "Work" [("city", .null)] free
  exact ⟨reachable, free, sound⟩

end Snippet.TypeScript
