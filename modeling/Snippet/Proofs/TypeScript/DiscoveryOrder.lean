import Snippet.Proofs.TypeScript.Soundness

/-!
# The order of the interfaces

The interfaces of a document stand in the order in which an object of each is met first, when the
nodes of the document are read from the front. The place of an interface is kept from the moment at
which its object is met, but its shape is known only when the object is complete, so a shape could
be found in between; `Ready.cases` excludes this.
-/

namespace Snippet.TypeScript

open Naming (IsHint)

/-! ## Nodes and their types -/

mutual

/-- The nodes of a value with the types that a visit gives them, each before what is inside it. -/
def typedNodes (hint : Text) : Json → Inference → List (Json × TypeExpr)
  | .array elements, s =>
    (.array elements, (typeOf hint (.array elements) s).1) ::
      typedElements (Naming.singular hint) elements s
  | .object members, s =>
    (.object members, (typeOf hint (.object members) s).1) ::
      typedMembers members (s.openObject hint).2
  | value, s => [(value, (typeOf hint value s).1)]

def typedElements (hint : Text) : List Json → Inference → List (Json × TypeExpr)
  | [], _ => []
  | element :: rest, s =>
    typedNodes hint element s ++ typedElements hint rest (typeOf hint element s).2

def typedMembers : List (Text × Json) → Inference → List (Json × TypeExpr)
  | [], _ => []
  | (key, value) :: rest, s =>
    typedNodes (Naming.typeName key) value s ++
      typedMembers rest (typeOf (Naming.typeName key) value s).2

end

mutual

theorem map_fst_typedNodes (hint : Text) (value : Json) (s : Inference) :
    (typedNodes hint value s).map Prod.fst = value.nodes := by
  match value with
  | .null | .bool _ | .number _ | .string _ => rfl
  | .array elements =>
    have inside := map_fst_typedElements (Naming.singular hint) elements s
    simp [typedNodes, Json.nodes, inside]
  | .object members =>
    have inside := map_fst_typedMembers members (s.openObject hint).2
    simp [typedNodes, Json.nodes, inside]

theorem map_fst_typedElements (hint : Text) (elements : List Json) (s : Inference) :
    (typedElements hint elements s).map Prod.fst = Json.nodesOfElements elements := by
  match elements with
  | [] => rfl
  | element :: rest =>
    have first := map_fst_typedNodes hint element s
    have others := map_fst_typedElements hint rest (typeOf hint element s).2
    simp [typedElements, Json.nodesOfElements, first, others]

theorem map_fst_typedMembers (members : List (Text × Json)) (s : Inference) :
    (typedMembers members s).map Prod.fst = Json.nodesOfMembers members := by
  match members with
  | [] => rfl
  | (key, value) :: rest =>
    have first := map_fst_typedNodes (Naming.typeName key) value s
    have others := map_fst_typedMembers rest (typeOf (Naming.typeName key) value s).2
    simp [typedMembers, Json.nodesOfMembers, first, others]

end

mutual

theorem typedNodes_over (hint : Text) (value : Json) {s : Inference} (consistent : Consistent s) :
    ∀ node ∈ typedNodes hint value s, node.2.Over (· ∈ (typeOf hint value s).2.names) := by
  obtain ⟨_, whole⟩ := typeOf_consistent hint value consistent
  match value with
  | .null | .bool _ | .number _ | .string _ =>
    intro node listed
    obtain rfl := List.mem_singleton.1 listed
    exact whole
  | .array elements =>
    intro node listed
    cases List.mem_cons.1 listed with
    | inl same =>
      subst same
      exact whole
    | inr inside =>
      rw [typeOf_array]
      exact typedElements_over (Naming.singular hint) elements consistent node inside
  | .object members =>
    intro node listed
    cases List.mem_cons.1 listed with
    | inl same =>
      subst same
      exact whole
    | inr inside =>
      -- The names that are known inside the object are still known when it is closed.
      have grown := List.map_subset Interface.name (interfaces_subset_object hint members s)
      exact (typedMembers_over members (consistent.openObject hint) node inside).mono
        fun _ known => grown known

theorem typedElements_over (hint : Text) (elements : List Json) {s : Inference}
    (consistent : Consistent s) :
    ∀ node ∈ typedElements hint elements s,
      node.2.Over (· ∈ (elementTypes hint elements s).2.names) := by
  match elements with
  | [] => simp [typedElements]
  | element :: rest =>
    intro node listed
    rw [elementTypes_cons]
    cases List.mem_append.1 listed with
    | inl first =>
      obtain ⟨added, visit⟩ := elementTypes_visit hint rest (typeOf hint element s).2
      exact (typedNodes_over hint element consistent node first).mono
        fun _ known => visit.names_subset known
    | inr later =>
      exact typedElements_over hint rest (typeOf_consistent hint element consistent).1 node later

theorem typedMembers_over (members : List (Text × Json)) {s : Inference}
    (consistent : Consistent s) :
    ∀ node ∈ typedMembers members s, node.2.Over (· ∈ (fieldTypes members s).2.names) := by
  match members with
  | [] => simp [typedMembers]
  | (key, value) :: rest =>
    intro node listed
    rw [fieldTypes_cons]
    cases List.mem_append.1 listed with
    | inl first =>
      obtain ⟨added, visit⟩ := fieldTypes_visit rest (typeOf (Naming.typeName key) value s).2
      exact (typedNodes_over (Naming.typeName key) value consistent node first).mono
        fun _ known => visit.names_subset known
    | inr later =>
      exact typedMembers_over rest (typeOf_consistent (Naming.typeName key) value consistent).1
        node later

end

/-! ## Discovery order -/

def isObjectOf (name : Text) : Json × TypeExpr → Bool
  | (.object _, .named other) => other == name
  | _ => false

def firstObject (nodes : List (Json × TypeExpr)) (i : Interface) : Nat :=
  nodes.findIdx (isObjectOf i.name)

/-- Interfaces stand in discovery order if there is an object of each of them and the first objects
of them come one behind the other. -/
structure InDiscoveryOrder (nodes : List (Json × TypeExpr)) (interfaces : List Interface) :
    Prop where
  met : ∀ i ∈ interfaces, ∃ node ∈ nodes, isObjectOf i.name node = true
  increasing : (interfaces.map (firstObject nodes)).Pairwise (· < ·)

theorem isObjectOf_eq_false {node : Json × TypeExpr} {names : List Text} {name : Text}
    (built : node.2.Over (· ∈ names)) (fresh : name ∉ names) : isObjectOf name node = false := by
  obtain ⟨value, type⟩ := node
  -- Only a named type is looked for, and its name is one of those that are known.
  cases built with
  | named known =>
    cases value with
    | object =>
      simp only [isObjectOf, beq_eq_false_iff_ne]
      rintro rfl
      exact fresh known
    | null | bool | number | string | array => rfl
  | null | boolean | number | string | array => cases value <;> rfl

namespace InDiscoveryOrder

variable {before after : List (Json × TypeExpr)} {left right : List Interface}

theorem nil (nodes : List (Json × TypeExpr)) : InDiscoveryOrder nodes [] :=
  ⟨by simp, .nil⟩

/-- An object is in front of all other objects of its type. -/
theorem own (members : List (Text × Json)) (i : Interface) :
    InDiscoveryOrder [(.object members, .named i.name)] [i] where
  met := by simp [isObjectOf]
  increasing := List.pairwise_singleton _ _

theorem append (first : InDiscoveryOrder before left) (second : InDiscoveryOrder after right)
    (fresh : ∀ i ∈ right, ∀ node ∈ before, isObjectOf i.name node = false) :
    InDiscoveryOrder (before ++ after) (left ++ right) := by
  have inFront : ∀ i ∈ left, firstObject (before ++ after) i = firstObject before i ∧
      firstObject before i < before.length := by
    intro i listed
    have bound := List.findIdx_lt_length_of_exists (first.met i listed)
    exact ⟨by rw [firstObject, List.findIdx_append, if_pos bound, firstObject], bound⟩
  have behind : ∀ i ∈ right,
      firstObject (before ++ after) i = firstObject after i + before.length := by
    intro i listed
    have absent := List.findIdx_eq_length_of_false (fresh i listed)
    rw [firstObject, List.findIdx_append, absent, if_neg (Nat.lt_irrefl _), firstObject]
  constructor
  · intro i listed
    cases List.mem_append.1 listed with
    | inl old =>
      obtain ⟨node, found, same⟩ := first.met i old
      exact ⟨node, List.mem_append_left _ found, same⟩
    | inr new =>
      obtain ⟨node, found, same⟩ := second.met i new
      exact ⟨node, List.mem_append_right _ found, same⟩
  · rw [List.map_append, List.pairwise_append]
    refine ⟨?_, ?_, ?_⟩
    · rw [List.map_congr_left fun i listed => (inFront i listed).1]
      exact first.increasing
    · rw [List.map_congr_left behind, List.pairwise_map]
      exact (List.pairwise_map.1 second.increasing).imp fun less => Nat.add_lt_add_right less _
    -- Every position on the left is inside `before`, every one on the right behind it.
    · intro position inLeft position' inRight
      obtain ⟨i, listed, rfl⟩ := List.mem_map.1 inLeft
      obtain ⟨j, listed', rfl⟩ := List.mem_map.1 inRight
      have same := inFront i listed
      have same' := behind j listed'
      omega

end InDiscoveryOrder

/-! ## Visits in discovery order -/

theorem Consistent.fresh {t : Inference} (consistent : Consistent t) {old new : List Interface}
    (split : t.interfaces = old ++ new) {j : Interface} (listed : j ∈ new) :
    j.name ∉ old.map Interface.name := by
  have distinct := consistent.names_nodup
  rw [Inference.names, split, List.map_append] at distinct
  exact fun inOld => List.disjoint_of_nodup_append distinct inOld (List.mem_map_of_mem listed)

/-- What a visit does to the interfaces: it adds some, in the discovery order of its nodes. -/
def AddsInOrder (s t : Inference) (nodes : List (Json × TypeExpr)) : Prop :=
  ∃ new, t.interfaces = s.interfaces ++ new ∧ InDiscoveryOrder nodes new

namespace AddsInOrder

variable {s t u : Inference} {before after : List (Json × TypeExpr)}

theorem refl (s : Inference) (nodes : List (Json × TypeExpr)) : AddsInOrder s s nodes :=
  ⟨[], by simp, .nil nodes⟩

theorem trans (first : AddsInOrder s t before) (second : AddsInOrder t u after)
    (built : ∀ node ∈ before, node.2.Over (· ∈ t.names)) (consistent : Consistent u) :
    AddsInOrder s u (before ++ after) := by
  obtain ⟨left, split, leftOrder⟩ := first
  obtain ⟨right, split', rightOrder⟩ := second
  refine ⟨left ++ right, by rw [split', split, List.append_assoc], ?_⟩
  -- What the first visit meets is declared after it, and names that are added later are not.
  exact leftOrder.append rightOrder fun i listed node inBefore =>
    isObjectOf_eq_false (built node inBefore) (consistent.fresh split' listed)

end AddsInOrder

/-- An object comes before the objects inside it, and it is not of the type of one of them. -/
theorem Ready.addsInOrder {hint : Text} {members : List (Text × Json)} {s : Inference}
    (ready : Ready hint members s)
    (inside : AddsInOrder (s.openObject hint).2 (fieldTypes members (s.openObject hint).2).2
      (typedMembers members (s.openObject hint).2)) :
    AddsInOrder s (typeOf hint (.object members) s).2 (typedNodes hint (.object members) s) := by
  obtain ⟨new, split, order⟩ := inside
  obtain ⟨consistent, _⟩ := typeOf_consistent hint (.object members) ready.consistent
  obtain ⟨added, visit, outcome⟩ := ready.cases
  -- The object's own place is the first behind the interfaces that there were.
  obtain rfl : added.filterMap id = new := by
    rw [visit.interfaces] at split
    exact List.append_cancel_left split
  rcases outcome with ⟨i, old, _, type, closed⟩ | ⟨type, closed⟩
  -- The object has an old type, so it is no first object of an interface that is new.
  · have split' : (typeOf hint (.object members) s).2.interfaces =
        s.interfaces ++ added.filterMap id := closed.interfaces
    refine ⟨_, split', ?_⟩
    rw [typedNodes, type]
    refine (InDiscoveryOrder.nil [_]).append order fun j listed node first => ?_
    obtain rfl := List.mem_singleton.1 first
    exact isObjectOf_eq_false (.named (List.mem_map_of_mem old)) (consistent.fresh split' listed)
  -- The object is the first one of its own interface, which stands before the others.
  · have split' : (typeOf hint (.object members) s).2.interfaces =
        (s.interfaces ++ [⟨(s.openObject hint).1, (fieldTypes members (s.openObject hint).2).1⟩]) ++
          added.filterMap id := by
      rw [closed.interfaces, List.append_assoc]
      rfl
    refine ⟨_, closed.interfaces, ?_⟩
    rw [typedNodes, type]
    refine (InDiscoveryOrder.own members ⟨(s.openObject hint).1, _⟩).append order
      fun j listed node first => ?_
    obtain rfl := List.mem_singleton.1 first
    exact isObjectOf_eq_false (.named (List.mem_map_of_mem (List.mem_append_right _
      List.mem_cons_self))) (consistent.fresh split' listed)

mutual

theorem typeOf_addsInOrder {hint : Text} (isHint : IsHint hint) (value : Json) {s : Inference}
    (colonFree : ∀ key ∈ value.allKeys, ':' ∉ key) (consistent : Consistent s)
    (legible : Legible s.interfaces) :
    AddsInOrder s (typeOf hint value s).2 (typedNodes hint value s) := by
  match value with
  | .null | .bool _ | .number _ | .string _ => exact .refl s _
  | .array elements =>
    obtain ⟨new, split, order⟩ := elementTypes_addsInOrder (Naming.isHint_singular isHint) elements
      colonFree consistent legible
    -- The array is a node, but no object, so it only moves the others on.
    rw [typeOf_array, typedNodes]
    refine ⟨new, split, (InDiscoveryOrder.nil [_]).append order fun j listed node first => ?_⟩
    obtain rfl := List.mem_singleton.1 first
    rfl
  | .object members =>
    exact (ready_object hint colonFree consistent legible).addsInOrder
      (fieldTypes_addsInOrder members colonFree (consistent.openObject hint)
        (legible.openObject hint))

theorem elementTypes_addsInOrder {hint : Text} (isHint : IsHint hint) (elements : List Json)
    {s : Inference} (colonFree : ∀ key ∈ Json.keysOfElements elements, ':' ∉ key)
    (consistent : Consistent s) (legible : Legible s.interfaces) :
    AddsInOrder s (elementTypes hint elements s).2 (typedElements hint elements s) := by
  match elements with
  | [] => exact .refl s _
  | element :: rest =>
    obtain ⟨here, there⟩ := List.forall_mem_append.1 colonFree
    obtain ⟨now, _⟩ := typeOf_consistent hint element consistent
    obtain ⟨sound, _⟩ := typeOf_sound isHint element here consistent legible
    have first := typeOf_addsInOrder isHint element here consistent legible
    have others := elementTypes_addsInOrder isHint rest there now sound.legible
    rw [elementTypes_cons]
    exact first.trans others (typedNodes_over hint element consistent)
      (elementTypes_consistent hint rest now).1

theorem fieldTypes_addsInOrder (members : List (Text × Json)) {s : Inference}
    (colonFree : ∀ key ∈ Json.keysOfMembers members, ':' ∉ key) (consistent : Consistent s)
    (legible : Legible s.interfaces) :
    AddsInOrder s (fieldTypes members s).2 (typedMembers members s) := by
  match members with
  | [] => exact .refl s _
  | (key, value) :: rest =>
    have isHint := Naming.isHint_typeName key
    obtain ⟨_, inside⟩ := List.forall_mem_cons.1 colonFree
    obtain ⟨here, there⟩ := List.forall_mem_append.1 inside
    obtain ⟨now, _⟩ := typeOf_consistent (Naming.typeName key) value consistent
    obtain ⟨sound, _⟩ := typeOf_sound isHint value here consistent legible
    have first := typeOf_addsInOrder isHint value here consistent legible
    have others := fieldTypes_addsInOrder rest there now sound.legible
    rw [fieldTypes_cons]
    exact first.trans others (typedNodes_over (Naming.typeName key) value consistent)
      (fieldTypes_consistent rest now).1

end

/-! ## Documents -/

def documentNodes (root : Text) (document : Json) : List (Json × TypeExpr) :=
  typedNodes (rootHint root document) document {}

/-- The declarations of a document whose keys have no colon start with the interface of a root
object, which has the root's name and its keys in order. All interfaces come in the order in which
an object of each is met first among the nodes of the document. -/
theorem interfaces_inDiscoveryOrder {root : Text} (valid : Text.isIdentifier root = true)
    {document : Json} (colonFree : ∀ key ∈ document.allKeys, ':' ∉ key) :
    (∀ members, document = .object members →
      (infer root document).root = none ∧
        ∃ fields others, fields.map Prod.fst = members.map Prod.fst ∧
          (infer root document).interfaces = ⟨root, fields⟩ :: others) ∧
      (documentNodes root document).map Prod.fst = document.nodes ∧
      InDiscoveryOrder (documentNodes root document) (infer root document).interfaces := by
  rw [infer_root, infer_interfaces]
  refine ⟨?_, map_fst_typedNodes _ document {}, ?_⟩
  · rintro members rfl
    exact ⟨rfl, (visitRoot_object (Text.ne_nil_of_isIdentifier valid) colonFree).2⟩
  · suffices adds : AddsInOrder {} (visitRoot root document).2 (documentNodes root document) by
      obtain ⟨new, split, order⟩ := adds
      rw [split]
      exact order
    cases document with
    | null | bool | number | string => exact .refl {} _
    | array elements =>
      have isHint : IsHint (root ++ "Item") := Or.inr (Naming.isName_append_item valid)
      exact typeOf_addsInOrder isHint (.array elements) colonFree .start legible_start
    | object members =>
      -- The name of the root may be a word of the type language, so it is no hint.
      exact (ready_object root colonFree .start legible_start).addsInOrder
        (fieldTypes_addsInOrder members colonFree (Consistent.start.openObject root)
          (legible_start.openObject root))

/-- An object inside an object has the shape of one that comes later. -/
theorem places_inDiscoveryOrder :
    let city : Json := .object [("city", .null)]
    let document : Json := .object [("home", .object [("place", city)]), ("work", city)]
    Text.isIdentifier "Root" = true ∧ (∀ key ∈ document.allKeys, ':' ∉ key) ∧
      (infer "Root" document).interfaces.map (firstObject (documentNodes "Root" document)) =
        [0, 1, 2] ∧
      InDiscoveryOrder (documentNodes "Root" document) (infer "Root" document).interfaces := by
  intro city document
  have valid : Text.isIdentifier "Root" = true := by decide
  have colonFree : ∀ key ∈ document.allKeys, ':' ∉ key := by decide
  exact ⟨valid, colonFree, by decide +kernel,
    (interfaces_inDiscoveryOrder valid colonFree).2.2⟩

end Snippet.TypeScript
