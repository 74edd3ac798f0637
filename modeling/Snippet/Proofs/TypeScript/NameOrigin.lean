import Snippet.Proofs.Json.Structure
import Snippet.Proofs.TypeScript.Declared

/-!
# Where names come from

The hints under which the objects of a document are named can be read off the document: keys give
them, and the name of the root. Every interface has the name that one of these hints makes, with or
without a number behind it. So its name consists of the characters of names, and whether it can be
the name of an alias is decided by the keys alone.

An alias takes its name without looking at the interfaces. `alias_differs_from_interfaces` says when
the two cannot meet, and `alias_name_declared_twice` is a document in which they do.
-/

namespace Snippet.TypeScript

open Naming (IsName IsHint)

/-! ## Hints -/

mutual

/-- The hints of the objects in a value, each before those of the objects inside it. -/
def objectHints (hint : Text) : Json → List Text
  | .array elements => hintsOfElements (Naming.singular hint) elements
  | .object members => hint :: hintsOfMembers members
  | _ => []

def hintsOfElements (hint : Text) : List Json → List Text
  | [] => []
  | element :: rest => objectHints hint element ++ hintsOfElements hint rest

def hintsOfMembers : List (Text × Json) → List Text
  | [] => []
  | (key, value) :: rest => objectHints (Naming.typeName key) value ++ hintsOfMembers rest

end

mutual

/-- What the first hint and the type names of all keys have in common, all hints have in common, if
singulars keep it. -/
theorem forall_mem_objectHints (good : Text → Prop)
    (singular : ∀ {hint}, good hint → good (Naming.singular hint)) {hint : Text}
    (first : good hint) (value : Json)
    (keys : ∀ key ∈ value.allKeys, good (Naming.typeName key)) :
    ∀ other ∈ objectHints hint value, good other := by
  match value with
  | .null | .bool _ | .number _ | .string _ => simp [objectHints]
  | .array elements =>
    exact forall_mem_hintsOfElements good singular (singular first) elements keys
  | .object members =>
    exact List.forall_mem_cons.2 ⟨first, forall_mem_hintsOfMembers good singular members keys⟩

theorem forall_mem_hintsOfElements (good : Text → Prop)
    (singular : ∀ {hint}, good hint → good (Naming.singular hint)) {hint : Text}
    (first : good hint) (elements : List Json)
    (keys : ∀ key ∈ Json.keysOfElements elements, good (Naming.typeName key)) :
    ∀ other ∈ hintsOfElements hint elements, good other := by
  match elements with
  | [] => simp [hintsOfElements]
  | element :: rest =>
    obtain ⟨here, there⟩ := List.forall_mem_append.1 keys
    exact List.forall_mem_append.2 ⟨forall_mem_objectHints good singular first element here,
      forall_mem_hintsOfElements good singular first rest there⟩

theorem forall_mem_hintsOfMembers (good : Text → Prop)
    (singular : ∀ {hint}, good hint → good (Naming.singular hint))
    (members : List (Text × Json))
    (keys : ∀ key ∈ Json.keysOfMembers members, good (Naming.typeName key)) :
    ∀ other ∈ hintsOfMembers members, good other := by
  match members with
  | [] => simp [hintsOfMembers]
  | (key, value) :: rest =>
    obtain ⟨own, others⟩ := List.forall_mem_cons.1 keys
    obtain ⟨here, there⟩ := List.forall_mem_append.1 others
    exact List.forall_mem_append.2 ⟨forall_mem_objectHints good singular own value here,
      forall_mem_hintsOfMembers good singular rest there⟩

end

theorem isHint_of_mem_objectHints {hint : Text} (isHint : IsHint hint) (value : Json) :
    ∀ other ∈ objectHints hint value, IsHint other :=
  forall_mem_objectHints IsHint Naming.isHint_singular isHint value
    fun key _ => Naming.isHint_typeName key

theorem isHint_of_mem_hintsOfMembers (members : List (Text × Json)) :
    ∀ other ∈ hintsOfMembers members, IsHint other :=
  forall_mem_hintsOfMembers IsHint Naming.isHint_singular members
    fun key _ => Naming.isHint_typeName key

/-! ## Names made from hints -/

/-- Whether a name is what one of the hints makes: its base, or the base with a number. -/
def IsMadeFrom (hints : List Text) (name : Text) : Prop :=
  ∃ hint ∈ hints, ∃ n, name = baseName hint ++ numbered n

namespace IsMadeFrom

variable {hints more : List Text} {name : Text}

theorem mono (made : IsMadeFrom hints name) (subset : hints ⊆ more) : IsMadeFrom more name := by
  obtain ⟨hint, listed, made⟩ := made
  exact ⟨hint, subset listed, made⟩

theorem exists_start (made : IsMadeFrom hints name) : ∃ hint ∈ hints, baseName hint <+: name := by
  obtain ⟨hint, listed, n, rfl⟩ := made
  exact ⟨hint, listed, List.prefix_append _ _⟩

theorem isName (made : IsMadeFrom hints name) (each : ∀ hint ∈ hints, IsHint hint) :
    IsName name := by
  obtain ⟨hint, listed, n, rfl⟩ := made
  exact isName_numbered (each hint listed) n

end IsMadeFrom

theorem isMadeFrom_freshName {hints : List Text} {hint : Text} (listed : hint ∈ hints)
    (taken : List Text) : IsMadeFrom hints (freshName hint taken) := by
  obtain ⟨n, name, _⟩ := freshName_spec hint taken
  exact ⟨hint, listed, n, name⟩

/-- Whether every name that a state has in addition to those of another is made from hints. -/
def NamesFrom (hints : List Text) (s t : Inference) : Prop :=
  ∀ name ∈ t.names, name ∈ s.names ∨ IsMadeFrom hints name

namespace NamesFrom

variable {hints more : List Text} {s t u : Inference}

theorem refl (hints : List Text) (s : Inference) : NamesFrom hints s s :=
  fun _ => Or.inl

theorem trans (first : NamesFrom hints s t) (second : NamesFrom more t u) :
    NamesFrom (hints ++ more) s u := by
  intro name declared
  rcases second name declared with old | made
  · exact (first name old).imp_right fun made => made.mono (List.subset_append_left _ _)
  · exact Or.inr (made.mono (List.subset_append_right _ _))

/-- An object adds the names from inside it and perhaps one from its own hint. -/
theorem object {hint : Text} {members : List (Text × Json)}
    (inside : NamesFrom hints (s.openObject hint).2 (fieldTypes members (s.openObject hint).2).2) :
    NamesFrom (hint :: hints) s (typeOf hint (.object members) s).2 := by
  have fromInside : ∀ i ∈ (fieldTypes members (s.openObject hint).2).2.interfaces,
      i.name ∈ s.names ∨ IsMadeFrom (hint :: hints) i.name := by
    intro i listed
    rw [NamesFrom, names_openObject] at inside
    exact (inside i.name (List.mem_map_of_mem listed)).imp_right
      fun made => made.mono (List.subset_cons_self _ _)
  obtain ⟨added, visit⟩ := fieldTypes_visit members (s.openObject hint).2
  intro name declared
  obtain ⟨i, listed, rfl⟩ := List.mem_map.1 declared
  rw [typeOf_object] at listed
  -- An object of a known shape gives its name back, so no name is added in that case.
  rcases close_cases _ visit with ⟨_, _, _, closed⟩ | ⟨_, _, closed⟩
  · rw [interfaces_of_known visit closed] at listed
    exact fromInside i listed
  · rcases (mem_interfaces_of_new visit closed).1 listed with rfl | old
    · exact Or.inr (isMadeFrom_freshName List.mem_cons_self s.taken)
    · exact fromInside i old

end NamesFrom

mutual

theorem typeOf_namesFrom (hint : Text) (value : Json) (s : Inference) :
    NamesFrom (objectHints hint value) s (typeOf hint value s).2 := by
  match value with
  | .null | .bool _ | .number _ | .string _ => exact .refl _ s
  | .array elements =>
    rw [typeOf_array]
    exact elementTypes_namesFrom (Naming.singular hint) elements s
  -- The hint of the object itself stands in front of those from inside it.
  | .object members => exact .object (fieldTypes_namesFrom members (s.openObject hint).2)

theorem elementTypes_namesFrom (hint : Text) (elements : List Json) (s : Inference) :
    NamesFrom (hintsOfElements hint elements) s (elementTypes hint elements s).2 := by
  match elements with
  | [] => exact .refl _ s
  | element :: rest =>
    rw [elementTypes_cons]
    exact (typeOf_namesFrom hint element s).trans
      (elementTypes_namesFrom hint rest (typeOf hint element s).2)

theorem fieldTypes_namesFrom (members : List (Text × Json)) (s : Inference) :
    NamesFrom (hintsOfMembers members) s (fieldTypes members s).2 := by
  match members with
  | [] => exact .refl _ s
  | (key, value) :: rest =>
    rw [fieldTypes_cons]
    exact (typeOf_namesFrom (Naming.typeName key) value s).trans
      (fieldTypes_namesFrom rest (typeOf (Naming.typeName key) value s).2)

end

theorem NamesFrom.isName {hints : List Text} {s t : Inference} (added : NamesFrom hints s t)
    (each : ∀ hint ∈ hints, IsHint hint) (old : ∀ name ∈ s.names, IsName name) :
    ∀ name ∈ t.names, IsName name := by
  intro name declared
  rcases added name declared with known | made
  · exact old name known
  · exact made.isName each

theorem fieldTypes_isName (root : Text) (members : List (Text × Json)) :
    ∀ name ∈ (fieldTypes members (({} : Inference).openObject root).2).2.names, IsName name :=
  (fieldTypes_namesFrom members _).isName (isHint_of_mem_hintsOfMembers members) nofun

/-! ## Documents -/

/-- In a document that is no object, no hint is the name of the root, which may be a word of the type
language. -/
theorem isHint_of_mem_rootHints {root : Text} (valid : Text.isIdentifier root = true)
    {document : Json} (other : ∀ members, document ≠ .object members) :
    ∀ hint ∈ objectHints (rootHint root document) document, IsHint hint := by
  cases document with
  | null | bool | number | string => nofun
  | array elements =>
    exact isHint_of_mem_objectHints (Or.inr (Naming.isName_append_item valid)) (.array elements)
  | object members => exact absurd rfl (other members)

theorem visitRoot_isName {root : Text} (valid : Text.isIdentifier root = true) {document : Json}
    (other : ∀ members, document ≠ .object members) :
    ∀ name ∈ (visitRoot root document).2.names, IsName name :=
  (typeOf_namesFrom _ document {}).isName (isHint_of_mem_rootHints valid other) nofun

theorem isMadeFrom_of_mem_interfaces {root : Text} {document : Json} {i : Interface}
    (listed : i ∈ (infer root document).interfaces) :
    IsMadeFrom (objectHints (rootHint root document) document) i.name := by
  rw [infer_interfaces] at listed
  have names := typeOf_namesFrom (rootHint root document) document {}
  rcases names i.name (List.mem_map_of_mem listed) with old | made
  · simp [Inference.names, Inference.interfaces] at old
  · exact made

/-- An alias for a root that is no object has a name of its own, unless the hints of the document
make that name. -/
theorem alias_differs_from_interfaces {root : Text} {document : Json}
    (other : ∀ members, document ≠ .object members)
    (unmade : ¬ IsMadeFrom (objectHints (rootHint root document) document) root) :
    (∃ type, (infer root document).root = some (root, type)) ∧
      (root :: (infer root document).interfaces.map Interface.name).Nodup := by
  refine ⟨⟨_, infer_root_of_ne_object other⟩, ?_⟩
  rw [List.nodup_cons, infer_interfaces]
  -- Interfaces differ among themselves, so only the alias has to be compared with them.
  refine ⟨?_, (typeOf_consistent (rootHint root document) document .start).1.names_nodup⟩
  intro declared
  obtain ⟨i, listed, rfl⟩ := List.mem_map.1 declared
  rw [← infer_interfaces] at listed
  exact unmade (isMadeFrom_of_mem_interfaces listed)

/-- An array of objects with objects inside, which are named `RootObjectItem` and `Tag`. -/
theorem tag_differs_from_alias :
    let root : Text := "RootObject"
    let document : Json :=
      .array [.object [("id", .null), ("tags", .array [.object [("name", .null)]])]]
    (∀ members, document ≠ .object members) ∧
      ¬ IsMadeFrom (objectHints (rootHint root document) document) root ∧
      (∃ type, (infer root document).root = some (root, type)) ∧
      (root :: (infer root document).interfaces.map Interface.name).Nodup := by
  intro root document
  have other : ∀ members, document ≠ .object members := nofun
  have unmade : ¬ IsMadeFrom (objectHints (rootHint root document) document) root :=
    fun made => absurd made.exists_start (by decide +kernel)
  exact ⟨other, unmade, alias_differs_from_interfaces other unmade⟩

/-- An object under the key `rootObject` is named as the alias is. -/
theorem alias_name_declared_twice :
    let root : Text := "RootObject"
    let document : Json :=
      .array [.object [("rootObject", .object [("a", .number ⟨false, 1, [], none⟩)])]]
    Text.isIdentifier root = true ∧ (∀ members, document ≠ .object members) ∧
      (∃ type, (infer root document).root = some (root, type)) ∧
      root ∈ (infer root document).interfaces.map Interface.name := by
  intro root document
  exact ⟨by decide, nofun, ⟨_, rfl⟩, by decide +kernel⟩

end Snippet.TypeScript
