import Snippet.Proofs.TypeScript.Inhabitation

/-!
# Inferred types hold the values they are inferred from

A visit gives a value a type that the value inhabits under the interfaces there are at its end, and
more interfaces change nothing in this. Interfaces are compared by the signatures of their fields,
so keys with a colon are excluded: without them a signature determines its fields.

An object shares the type of an earlier one only if that one was complete before the object was
met. An interface that is added inside the object is inhabited by a value inside it, which is less
high than the object; this gives `Ready.cases`, from which the order of the interfaces follows as
well.
-/

namespace Snippet.TypeScript

open Naming (IsName IsHint)

/-! ## Types of arrays -/

theorem exists_arrayMember {types : List TypeExpr} {type : TypeExpr} (listed : type ∈ types) :
    ∃ member ∈ types.eraseDupsBy fun a b => a.text == b.text, member.text = type.text := by
  induction types using List.reverseRecOn generalizing type with
  | nil => simp at listed
  | append_singleton types last ih =>
    rw [eraseDupsBy_concat TypeExpr.text]
    rcases List.mem_append.1 listed with earlier | here
    · obtain ⟨member, inMembers, text⟩ := ih earlier
      split
      · exact ⟨member, inMembers, text⟩
      · exact ⟨member, List.mem_append_left _ inMembers, text⟩
    · obtain rfl := List.mem_singleton.1 here
      -- A last type with a known text is dropped; the type that it repeats stands for it.
      split
      next known =>
        obtain ⟨first, inTypes, same⟩ := List.mem_map.1 known
        obtain ⟨member, inMembers, text⟩ := ih inTypes
        exact ⟨member, inMembers, text.trans same⟩
      next => exact ⟨type, List.mem_append_right _ here, rfl⟩

theorem inhabits_arrayType {declared : List Interface} {elements : List Json}
    {types : List TypeExpr} (each : List.Forall₂ (Inhabits declared) elements types)
    (built : ∀ type ∈ types, type.Over IsName) :
    Inhabits declared (.array elements) (arrayType types) := by
  refine inhabits_array.2 ⟨_, rfl, ?_, ?_⟩
  · intro element listed
    obtain ⟨type, inTypes, inhabits⟩ := exists_related each listed
    obtain ⟨member, inMembers, text⟩ := exists_arrayMember inTypes
    -- Types of one text are joined, but over names they are one type anyway.
    obtain rfl :=
      text_inj (built member (mem_of_mem_arrayMembers inMembers)) (built type inTypes) text
    exact ⟨member, inMembers, inhabits⟩
  · intro member inMembers
    exact exists_related (List.Forall₂.flip each) (mem_of_mem_arrayMembers inMembers)

/-! ## Interfaces that can be read -/

/-- Interfaces whose fields can be read from their signatures. -/
def Legible (declared : List Interface) : Prop :=
  ∀ i ∈ declared, IsName i.name ∧ ∀ field ∈ i.fields, ':' ∉ field.1

theorem legible_start : Legible ({} : Inference).interfaces := by
  simp [Legible, Inference.interfaces]

theorem Legible.openObject {s : Inference} (legible : Legible s.interfaces) (hint : Text) :
    Legible (s.openObject hint).2.interfaces := by
  rwa [interfaces_openObject]

theorem Legible.over_isName {s : Inference} {type : TypeExpr} (legible : Legible s.interfaces)
    (built : type.Over (· ∈ s.names)) : type.Over IsName := by
  refine built.mono ?_
  intro name declared
  obtain ⟨i, listed, rfl⟩ := List.mem_map.1 declared
  exact (legible i listed).1

/-- What soundness asks of a visit, next to the type of its value: the interfaces can be read, and
those that it adds are inhabited by values of a limited height. -/
structure Sound (s t : Inference) (height : Nat) : Prop where
  legible : Legible t.interfaces
  inhabited : ∀ i ∈ t.interfaces, i ∈ s.interfaces ∨
    ∃ inner : Json, inner.height ≤ height ∧ Inhabits t.interfaces inner (.named i.name)

namespace Sound

variable {s t u : Inference} {m n : Nat}

theorem refl (legible : Legible s.interfaces) (height : Nat) : Sound s s height where
  legible := legible
  inhabited := fun _ => Or.inl

theorem mono (sound : Sound s t m) (higher : m ≤ n) : Sound s t n where
  legible := sound.legible
  inhabited := by
    intro i listed
    rcases sound.inhabited i listed with old | ⟨inner, low, inhabits⟩
    · exact Or.inl old
    · exact Or.inr ⟨inner, Nat.le_trans low higher, inhabits⟩

theorem trans (first : Sound s t m) (second : Sound t u n)
    (subset : t.interfaces ⊆ u.interfaces) : Sound s u (max m n) where
  legible := second.legible
  inhabited := by
    intro i listed
    rcases (second.mono (Nat.le_max_right m n)).inhabited i listed with old | inside
    · rcases (first.mono (Nat.le_max_left m n)).inhabited i old with older | ⟨inner, low, inhabits⟩
      · exact Or.inl older
      · exact Or.inr ⟨inner, low, inhabits.mono subset⟩
    · exact Or.inr inside

end Sound

/-! ## Objects -/

/-- An object whose members were visited soundly, about to be closed. -/
structure Ready (hint : Text) (members : List (Text × Json)) (s : Inference) : Prop where
  consistent : Consistent s
  colonFree : ∀ member ∈ members, ':' ∉ member.1
  sound : Sound (s.openObject hint).2 (fieldTypes members (s.openObject hint).2).2
    (Json.heightOfMembers members)
  each : List.Forall₂
    (MemberInhabits (fieldTypes members (s.openObject hint).2).2.interfaces) members
    (fieldTypes members (s.openObject hint).2).1

namespace Ready

variable {hint : Text} {members : List (Text × Json)} {s : Inference}

theorem of_members (consistent : Consistent s)
    (colonFree : ∀ key ∈ Json.keysOfMembers members, ':' ∉ key)
    (visited : Sound (s.openObject hint).2 (fieldTypes members (s.openObject hint).2).2
        (Json.heightOfMembers members) ∧
      List.Forall₂
        (MemberInhabits (fieldTypes members (s.openObject hint).2).2.interfaces) members
        (fieldTypes members (s.openObject hint).2).1) :
    Ready hint members s where
  consistent := consistent
  colonFree := fun _ listed => colonFree _ (Json.key_mem_keysOfMembers listed)
  sound := visited.1
  each := visited.2

theorem colonFree_fields (ready : Ready hint members s) :
    ∀ field ∈ (fieldTypes members (s.openObject hint).2).1, ':' ∉ field.1 :=
  forall_key_of_members (p := (':' ∉ ·)) (map_fst_fieldTypes members _) ready.colonFree

/-- An interface with the signature of the object is from before the object was met, and it has the
object's fields. -/
theorem old_of_signature (ready : Ready hint members s) {i : Interface}
    (declared : i ∈ (fieldTypes members (s.openObject hint).2).2.interfaces)
    (same : signature i.fields = signature (fieldTypes members (s.openObject hint).2).1) :
    i ∈ s.interfaces ∧ i.fields = (fieldTypes members (s.openObject hint).2).1 := by
  obtain ⟨inside, built⟩ := fieldTypes_consistent members (ready.consistent.openObject hint)
  have legible := ready.sound.legible
  have fields : i.fields = (fieldTypes members (s.openObject hint).2).1 :=
    signature_inj (legible i declared).2 ready.colonFree_fields
      (fun field inFields => legible.over_isName (inside.declared i declared field inFields))
      (fun field inFields => legible.over_isName (built field inFields)) same
  refine ⟨?_, fields⟩
  rcases ready.sound.inhabited i declared with old | ⟨inner, low, inhabits⟩
  · rwa [interfaces_openObject] at old
  · -- An interface from inside would be inhabited by the object and by something less high.
    have whole : Inhabits (fieldTypes members (s.openObject hint).2).2.interfaces
        (.object members) (.named i.name) :=
      inhabits_object.2 ⟨i, declared, rfl, fields ▸ ready.each⟩
    have high := height_le_of_inhabits inside.names_nodup whole inhabits
    exact absurd (Nat.le_trans high low) (Nat.not_succ_le_self _)

/-- The two outcomes of an object. It has the fields and the type of an interface from before it was
met, or it gets an interface of its own. -/
theorem cases (ready : Ready hint members s) :
    ∃ added, Visit (s.openObject hint).2 (fieldTypes members (s.openObject hint).2).2 added ∧
      ((∃ i ∈ s.interfaces, i.fields = (fieldTypes members (s.openObject hint).2).1 ∧
          (typeOf hint (.object members) s).1 = .named i.name ∧
          Visit s (typeOf hint (.object members) s).2 (none :: added)) ∨
        ((typeOf hint (.object members) s).1 = .named (s.openObject hint).1 ∧
          Visit s (typeOf hint (.object members) s).2
            (some ⟨(s.openObject hint).1, (fieldTypes members (s.openObject hint).2).1⟩ ::
              added))) := by
  obtain ⟨added, visit⟩ := fieldTypes_visit members (s.openObject hint).2
  obtain ⟨inside, _⟩ := fieldTypes_consistent members (ready.consistent.openObject hint)
  -- A shape that is found belongs to an interface, which is then an old one.
  refine ⟨added, visit, ?_⟩
  rw [typeOf_object]
  rcases close_cases _ visit with ⟨known, listed, type, closed⟩ | ⟨_, type, closed⟩
  · obtain ⟨i, declared, rfl, same⟩ := inside.exists_interface listed
    obtain ⟨old, fields⟩ := ready.old_of_signature declared same
    exact Or.inl ⟨i, old, fields, type, closed⟩
  · exact Or.inr ⟨type, closed⟩

theorem inhabits (ready : Ready hint members s) :
    Inhabits (typeOf hint (.object members) s).2.interfaces (.object members)
      (typeOf hint (.object members) s).1 := by
  have grown := interfaces_subset_object hint members s
  have each := ready.each.imp fun _ _ inhabits => inhabits.mono grown
  -- The object inhabits the old interface because it has the fields of it.
  obtain ⟨added, visit, ⟨i, old, fields, type, closed⟩ | ⟨type, closed⟩⟩ := ready.cases
  · rw [type]
    exact inhabits_object.2 ⟨i, closed.interfaces_subset old, rfl, fields ▸ each⟩
  · rw [type]
    exact inhabits_object.2
      ⟨_, (mem_interfaces_of_new visit closed).2 (Or.inl rfl), rfl, each⟩

theorem closed (ready : Ready hint members s) (isHint : IsHint hint) :
    Sound s (typeOf hint (.object members) s).2 (Json.object members).height := by
  -- Interfaces from inside stay inhabited as they were, whatever becomes of the object itself.
  have grown := interfaces_subset_object hint members s
  have inside : ∀ j ∈ (fieldTypes members (s.openObject hint).2).2.interfaces,
      j ∈ s.interfaces ∨ ∃ inner : Json, inner.height ≤ (Json.object members).height ∧
        Inhabits (typeOf hint (.object members) s).2.interfaces inner (.named j.name) := by
    intro j listed
    have higher := ready.sound.mono (Nat.le_succ _)
    rcases higher.inhabited j listed with before | ⟨inner, low, inhabits⟩
    · rw [interfaces_openObject] at before
      exact Or.inl before
    · exact Or.inr ⟨inner, low, inhabits.mono grown⟩
  obtain ⟨added, visit, ⟨i, old, fields, type, closed⟩ | ⟨type, closed⟩⟩ := ready.cases
  · have same := interfaces_of_known visit closed
    exact ⟨same ▸ ready.sound.legible, fun j listed => inside j (same ▸ listed)⟩
  · constructor
    · intro j listed
      cases (mem_interfaces_of_new visit closed).1 listed with
      | inl same =>
        subst same
        exact ⟨isName_freshName isHint s.taken, ready.colonFree_fields⟩
      | inr old =>
        exact ready.sound.legible j old
    -- The new interface is inhabited by the object itself.
    · intro j listed
      cases (mem_interfaces_of_new visit closed).1 listed with
      | inl same =>
        subst same
        exact Or.inr ⟨_, Nat.le_refl _, type ▸ ready.inhabits⟩
      | inr old =>
        exact inside j old

end Ready

/-! ## Values -/

mutual

/-- A visit is sound, and the value inhabits the type that the visit gives it. -/
theorem typeOf_sound {hint : Text} (isHint : IsHint hint) (value : Json) {s : Inference}
    (colonFree : ∀ key ∈ value.allKeys, ':' ∉ key) (consistent : Consistent s)
    (legible : Legible s.interfaces) :
    Sound s (typeOf hint value s).2 value.height ∧
      Inhabits (typeOf hint value s).2.interfaces value (typeOf hint value s).1 := by
  match value with
  | .null => exact ⟨.refl legible _, inhabits_null.2 rfl⟩
  | .bool _ => exact ⟨.refl legible _, inhabits_bool.2 rfl⟩
  | .number _ => exact ⟨.refl legible _, inhabits_number.2 rfl⟩
  | .string _ => exact ⟨.refl legible _, inhabits_string.2 rfl⟩
  | .array elements =>
    rw [typeOf_array]
    obtain ⟨sound, each⟩ := elementTypes_sound (Naming.isHint_singular isHint) elements colonFree
      consistent legible
    obtain ⟨_, declared⟩ := elementTypes_consistent (Naming.singular hint) elements consistent
    exact ⟨sound.mono (Nat.le_succ _),
      inhabits_arrayType each fun type listed => sound.legible.over_isName (declared type listed)⟩
  | .object members =>
    have ready : Ready hint members s := .of_members consistent colonFree
      (fieldTypes_sound members colonFree (consistent.openObject hint) (legible.openObject hint))
    exact ⟨ready.closed isHint, ready.inhabits⟩

theorem elementTypes_sound {hint : Text} (isHint : IsHint hint) (elements : List Json)
    {s : Inference} (colonFree : ∀ key ∈ Json.keysOfElements elements, ':' ∉ key)
    (consistent : Consistent s) (legible : Legible s.interfaces) :
    Sound s (elementTypes hint elements s).2 (Json.heightOfElements elements) ∧
      List.Forall₂ (Inhabits (elementTypes hint elements s).2.interfaces) elements
        (elementTypes hint elements s).1 := by
  match elements with
  | [] => exact ⟨.refl legible _, .nil⟩
  | element :: rest =>
    rw [elementTypes_cons]
    obtain ⟨here, there⟩ := List.forall_mem_append.1 colonFree
    obtain ⟨now, _⟩ := typeOf_consistent hint element consistent
    obtain ⟨first, inhabits⟩ := typeOf_sound isHint element here consistent legible
    obtain ⟨later, each⟩ := elementTypes_sound isHint rest there now first.legible
    -- The first element inhabits its type with fewer interfaces than there are at the end.
    obtain ⟨added, visit⟩ := elementTypes_visit hint rest (typeOf hint element s).2
    exact ⟨first.trans later visit.interfaces_subset,
      .cons (inhabits.mono visit.interfaces_subset) each⟩

theorem fieldTypes_sound (members : List (Text × Json)) {s : Inference}
    (colonFree : ∀ key ∈ Json.keysOfMembers members, ':' ∉ key) (consistent : Consistent s)
    (legible : Legible s.interfaces) :
    Sound s (fieldTypes members s).2 (Json.heightOfMembers members) ∧
      List.Forall₂ (MemberInhabits (fieldTypes members s).2.interfaces) members
        (fieldTypes members s).1 := by
  match members with
  | [] => exact ⟨.refl legible _, .nil⟩
  | (key, value) :: rest =>
    rw [fieldTypes_cons]
    obtain ⟨_, inside⟩ := List.forall_mem_cons.1 colonFree
    obtain ⟨here, there⟩ := List.forall_mem_append.1 inside
    obtain ⟨now, _⟩ := typeOf_consistent (Naming.typeName key) value consistent
    obtain ⟨first, inhabits⟩ :=
      typeOf_sound (Naming.isHint_typeName key) value here consistent legible
    obtain ⟨later, each⟩ := fieldTypes_sound rest there now first.legible
    obtain ⟨added, visit⟩ := fieldTypes_visit rest (typeOf (Naming.typeName key) value s).2
    exact ⟨first.trans later visit.interfaces_subset,
      .cons ⟨rfl, inhabits.mono visit.interfaces_subset⟩ each⟩

end

theorem ready_object (hint : Text) {members : List (Text × Json)} {s : Inference}
    (colonFree : ∀ key ∈ Json.keysOfMembers members, ':' ∉ key) (consistent : Consistent s)
    (legible : Legible s.interfaces) : Ready hint members s :=
  .of_members consistent colonFree
    (fieldTypes_sound members colonFree (consistent.openObject hint) (legible.openObject hint))

/-! ## Documents -/

/-- The type that declarations give the root: what its alias stands for, or the interface of its
name. -/
def Declarations.rootType (d : Declarations) (root : Text) : TypeExpr :=
  match d.root with
  | some (_, type) => type
  | none => .named root

/-- A root object always gets an interface of its own, the first one, under its own name. -/
theorem visitRoot_object {root : Text} (filled : root ≠ []) {members : List (Text × Json)}
    (colonFree : ∀ key ∈ Json.keysOfMembers members, ':' ∉ key) :
    (visitRoot root (.object members)).1 = .named root ∧
      ∃ fields others, fields.map Prod.fst = members.map Prod.fst ∧
        (visitRoot root (.object members)).2.interfaces = ⟨root, fields⟩ :: others := by
  have name : (({} : Inference).openObject root).1 = root := freshName_nil filled
  have ready := ready_object root colonFree .start legible_start
  obtain ⟨added, _, ⟨i, old, _⟩ | ⟨type, closed⟩⟩ := ready.cases
  · -- Before the root there is no interface to share.
    simp [Inference.interfaces] at old
  · rw [name] at type closed
    exact ⟨type, _, _, map_fst_fieldTypes members _, closed.interfaces⟩

/-- Every document whose keys have no colon inhabits the type that its root is given, under the
interfaces that are declared for it. -/
theorem document_inhabits_rootType {root : Text} (valid : Text.isIdentifier root = true)
    {document : Json} (colonFree : ∀ key ∈ document.allKeys, ':' ∉ key) :
    Inhabits (infer root document).interfaces document
      ((infer root document).rootType root) := by
  rw [infer_interfaces, Declarations.rootType, infer_root]
  cases document with
  | null => exact inhabits_null.2 rfl
  | bool => exact inhabits_bool.2 rfl
  | number => exact inhabits_number.2 rfl
  | string => exact inhabits_string.2 rfl
  | array elements =>
    have isHint : IsHint (root ++ "Item") := Or.inr (Naming.isName_append_item valid)
    exact (typeOf_sound isHint (.array elements) colonFree .start legible_start).2
  | object members =>
    have filled := Text.ne_nil_of_isIdentifier valid
    have inhabits := (ready_object root colonFree .start legible_start).inhabits
    have type := (visitRoot_object filled colonFree).1
    exact type ▸ inhabits

/-- Two objects of one shape beside each other, an array of arrays, and a key that is a word of the
type language. -/
theorem places_inhabit_rootType :
    let city : Json := .object [("city", .string "Lund")]
    let document : Json := .object
      [("home", city), ("number", .array [.array [], .array [.null, .bool true]]), ("work", city)]
    Text.isIdentifier "number" = true ∧ (∀ key ∈ document.allKeys, ':' ∉ key) ∧
      Inhabits (infer "number" document).interfaces document
        ((infer "number" document).rootType "number") := by
  intro city document
  have valid : Text.isIdentifier "number" = true := by decide
  have colonFree : ∀ key ∈ document.allKeys, ':' ∉ key := by decide
  exact ⟨valid, colonFree, document_inhabits_rootType valid colonFree⟩

end Snippet.TypeScript
