import Snippet.Proofs.Distinct
import Snippet.Proofs.TypeScript.Visit

/-!
# Visiting a value again

A value that was visited has nothing new to an inference: at any later moment, and under any hint, a
visit gives it the type that it got, and leaves the taken names, the known shapes and the interfaces
as they are (`visited_again`). The reason is that a shape, once known, keeps its name in every step
of an inference, and that the name and the slot which an object takes are given up again when its
shape is known.

So the elements of an array may be repeated: wherever in a document this happens, nothing but empty
slots is added.
-/

namespace Snippet.TypeScript

/-! ## Findings -/

/-- What an inference has found: the names that are taken, the shapes that are known, and the
interfaces in order. It does not show which slots are empty. -/
structure Findings where
  taken : List Text
  shapes : Table Text
  interfaces : List Interface

namespace Inference

def findings (s : Inference) : Findings :=
  ⟨s.taken, s.shapes, s.interfaces⟩

theorem findings_eq_iff {s t : Inference} :
    s.findings = t.findings ↔
      s.taken = t.taken ∧ s.shapes = t.shapes ∧ s.interfaces = t.interfaces := by
  simp [findings]

/-! ## Shapes that are kept -/

/-- Whether every shape that is known in a state is known in another one, under the same name. -/
def KeepsShapes (s t : Inference) : Prop :=
  ∀ shape name, Table.get? shape s.shapes = some name → Table.get? shape t.shapes = some name

namespace KeepsShapes

variable {s t u : Inference}

theorem refl (s : Inference) : KeepsShapes s s :=
  fun _ _ found => found

theorem trans (first : KeepsShapes s t) (second : KeepsShapes t u) : KeepsShapes s u :=
  fun shape name found => second shape name (first shape name found)

/-- Only the shapes of a state count. -/
theorem congr (keeps : KeepsShapes s t) (same : u.findings = t.findings) : KeepsShapes s u := by
  have shapes := (findings_eq_iff.1 same).2.1
  unfold KeepsShapes
  rw [shapes]
  exact keeps

theorem closeObject (s : Inference) (name : Text) (slot : Nat) (fields : Fields) :
    KeepsShapes s (s.closeObject name slot fields).2 := by
  intro shape known found
  unfold Inference.closeObject
  split
  next => exact found
  next missing =>
    -- The shape that is put in front was not known, so it hides none that was.
    have other : signature fields ≠ shape := by
      rintro rfl
      simp [missing] at found
    simp [Table.get?, other, found]

theorem step (step : Step s t) : KeepsShapes s t := by
  cases step with
  | opened => exact refl s
  | closed => exact closeObject s _ _ _

theorem later (later : Later s t) : KeepsShapes s t := by
  induction later with
  | refl => exact refl s
  | tail _ last ih => exact ih.trans (step last)

end KeepsShapes

end Inference

open Inference (Later KeepsShapes)

/-! ## Closing an object -/

theorem closeObject_of_known {s visited : Inference} {hint known : Text} {slot : Nat}
    {fields : Fields} (unchanged : visited.findings = (s.openObject hint).2.findings)
    (found : Table.get? (signature fields) s.shapes = some known) :
    (visited.closeObject (s.openObject hint).1 slot fields).1 = .named known ∧
      (visited.closeObject (s.openObject hint).1 slot fields).2.findings = s.findings := by
  obtain ⟨taken, shapes, interfaces⟩ := Inference.findings_eq_iff.1 unchanged
  have foundAgain : Table.get? (signature fields) visited.shapes = some known := by
    rw [shapes]
    exact found
  rw [interfaces_openObject] at interfaces
  simp only [Inference.closeObject, foundAgain]
  refine ⟨trivial, Inference.findings_eq_iff.2 ⟨?_, shapes, interfaces⟩⟩
  -- The name stands in front, where it was put when the object was opened.
  rw [taken]
  exact List.erase_cons_head _ _

/-! ## Second visits -/

mutual

/-- Where the shapes from the visit of a value are known, another visit of it finds nothing. -/
theorem typeOf_again (hint hint' : Text) (value : Json) {s t : Inference}
    (keeps : KeepsShapes (typeOf hint value s).2 t) :
    (typeOf hint' value t).1 = (typeOf hint value s).1 ∧
      (typeOf hint' value t).2.findings = t.findings := by
  match value with
  | .null | .bool _ | .number _ | .string _ => exact ⟨rfl, rfl⟩
  | .array elements =>
    rw [typeOf_array] at keeps
    rw [typeOf_array, typeOf_array]
    obtain ⟨types, findings⟩ := elementTypes_again (Naming.singular hint) (Naming.singular hint')
      elements keeps
    exact ⟨congrArg arrayType types, findings⟩
  | .object members =>
    rw [typeOf_object] at keeps
    rw [typeOf_object, typeOf_object]
    -- The shapes from inside the object were known when it was closed.
    have inside := (KeepsShapes.closeObject (fieldTypes members (s.openObject hint).2).2 _ _ _).trans
      keeps
    obtain ⟨fields, findings⟩ := fieldTypes_again members
      (t := (t.openObject hint').2) inside
    obtain ⟨known, type, recorded⟩ := get?_shape_of_closed
      (fieldTypes members (s.openObject hint).2).2 (s.openObject hint).1 s.slots.length
      (fieldTypes members (s.openObject hint).2).1
    rw [fields, type]
    exact closeObject_of_known findings (keeps _ _ recorded)

theorem elementTypes_again (hint hint' : Text) (elements : List Json) {s t : Inference}
    (keeps : KeepsShapes (elementTypes hint elements s).2 t) :
    (elementTypes hint' elements t).1 = (elementTypes hint elements s).1 ∧
      (elementTypes hint' elements t).2.findings = t.findings := by
  match elements with
  | [] => exact ⟨rfl, rfl⟩
  | element :: rest =>
    rw [elementTypes_cons] at keeps
    rw [elementTypes_cons, elementTypes_cons]
    -- What was recorded for the first element is kept during the visits of the others.
    have first := (KeepsShapes.later (elementTypes_later hint rest (typeOf hint element s).2)).trans
      keeps
    obtain ⟨type, unchanged⟩ := typeOf_again hint hint' element first
    obtain ⟨types, findings⟩ := elementTypes_again hint hint' rest (keeps.congr unchanged)
    exact ⟨congrArg₂ List.cons type types, findings.trans unchanged⟩

theorem fieldTypes_again (members : List (Text × Json)) {s t : Inference}
    (keeps : KeepsShapes (fieldTypes members s).2 t) :
    (fieldTypes members t).1 = (fieldTypes members s).1 ∧
      (fieldTypes members t).2.findings = t.findings := by
  match members with
  | [] => exact ⟨rfl, rfl⟩
  | (key, value) :: rest =>
    rw [fieldTypes_cons] at keeps
    rw [fieldTypes_cons, fieldTypes_cons]
    have first := (KeepsShapes.later
      (fieldTypes_later rest (typeOf (Naming.typeName key) value s).2)).trans keeps
    obtain ⟨type, unchanged⟩ := typeOf_again (Naming.typeName key) (Naming.typeName key) value first
    obtain ⟨fields, findings⟩ := fieldTypes_again rest (keeps.congr unchanged)
    exact ⟨congrArg₂ (fun type fields => (key, type) :: fields) type fields,
      findings.trans unchanged⟩

end

/-! ## Empty slots -/

section Objects

variable {s t visited visited' : Inference} {hint : Text} {added added' : List (Option Interface)}
  {fields : Fields}

theorem interfaces_of_missing (members : Visit (s.openObject hint).2 visited added)
    (missing : Table.get? (signature fields) visited.shapes = none) :
    (visited.closeObject (s.openObject hint).1 s.slots.length fields).2.interfaces =
      s.interfaces ++ ⟨(s.openObject hint).1, fields⟩ :: added.filterMap id := by
  simp only [Inference.closeObject, missing, Inference.interfaces, slots_of_members members]
  rw [List.set_append_right _ _ (Nat.le_refl _)]
  simp

/-- Closing an object does not depend on the empty slots before it and inside it. -/
theorem closeObject_congr (same : s.findings = t.findings)
    (members : Visit (s.openObject hint).2 visited added)
    (members' : Visit (t.openObject hint).2 visited' added')
    (inside : visited.findings = visited'.findings) :
    let closed := visited.closeObject (s.openObject hint).1 s.slots.length fields
    let closed' := visited'.closeObject (t.openObject hint).1 t.slots.length fields
    closed.1 = closed'.1 ∧ closed.2.findings = closed'.2.findings := by
  obtain ⟨takenBefore, _, before⟩ := Inference.findings_eq_iff.1 same
  obtain ⟨taken, shapes, interfaces⟩ := Inference.findings_eq_iff.1 inside
  have name : (s.openObject hint).1 = (t.openObject hint).1 := congrArg (freshName hint) takenBefore
  simp only [Inference.findings_eq_iff]
  cases found : Table.get? (signature fields) visited.shapes with
  | some known =>
    have found' : Table.get? (signature fields) visited'.shapes = some known := shapes ▸ found
    simp only [Inference.closeObject, found, found']
    exact ⟨trivial, by rw [taken, name], shapes, interfaces⟩
  | none =>
    have found' : Table.get? (signature fields) visited'.shapes = none := shapes ▸ found
    -- The interfaces from inside are those behind the ones that were there before.
    have behind : added.filterMap id = added'.filterMap id := by
      rw [members.interfaces, members'.interfaces, interfaces_openObject, interfaces_openObject,
        before] at interfaces
      exact List.append_cancel_left interfaces
    rw [interfaces_of_missing members found, interfaces_of_missing members' found', before, behind,
      name]
    simp only [Inference.closeObject, found, found']
    exact ⟨trivial, taken, by rw [shapes], trivial⟩

end Objects

mutual

/-- What a visit finds depends on what was found before, not on empty slots. -/
theorem typeOf_congr (hint : Text) (value : Json) {s t : Inference}
    (same : s.findings = t.findings) :
    (typeOf hint value s).1 = (typeOf hint value t).1 ∧
      (typeOf hint value s).2.findings = (typeOf hint value t).2.findings := by
  match value with
  | .null | .bool _ | .number _ | .string _ => exact ⟨rfl, same⟩
  | .array elements =>
    rw [typeOf_array, typeOf_array]
    obtain ⟨types, findings⟩ := elementTypes_congr (Naming.singular hint) elements same
    exact ⟨congrArg arrayType types, findings⟩
  | .object members =>
    obtain ⟨taken, shapes, interfaces⟩ := Inference.findings_eq_iff.1 same
    have opened : (s.openObject hint).2.findings = (t.openObject hint).2.findings := by
      rw [Inference.findings_eq_iff, interfaces_openObject, interfaces_openObject]
      exact ⟨congrArg (fun taken => freshName hint taken :: taken) taken, shapes, interfaces⟩
    obtain ⟨added, visit⟩ := fieldTypes_visit members (s.openObject hint).2
    obtain ⟨added', visit'⟩ := fieldTypes_visit members (t.openObject hint).2
    obtain ⟨fields, findings⟩ := fieldTypes_congr members opened
    rw [typeOf_object, typeOf_object, fields]
    exact closeObject_congr same visit visit' findings

theorem elementTypes_congr (hint : Text) (elements : List Json) {s t : Inference}
    (same : s.findings = t.findings) :
    (elementTypes hint elements s).1 = (elementTypes hint elements t).1 ∧
      (elementTypes hint elements s).2.findings = (elementTypes hint elements t).2.findings := by
  match elements with
  | [] => exact ⟨rfl, same⟩
  | element :: rest =>
    rw [elementTypes_cons, elementTypes_cons]
    obtain ⟨type, after⟩ := typeOf_congr hint element same
    obtain ⟨types, findings⟩ := elementTypes_congr hint rest after
    exact ⟨congrArg₂ List.cons type types, findings⟩

theorem fieldTypes_congr (members : List (Text × Json)) {s t : Inference}
    (same : s.findings = t.findings) :
    (fieldTypes members s).1 = (fieldTypes members t).1 ∧
      (fieldTypes members s).2.findings = (fieldTypes members t).2.findings := by
  match members with
  | [] => exact ⟨rfl, same⟩
  | (key, value) :: rest =>
    rw [fieldTypes_cons, fieldTypes_cons]
    obtain ⟨type, after⟩ := typeOf_congr (Naming.typeName key) value same
    obtain ⟨fields, findings⟩ := fieldTypes_congr rest after
    exact ⟨congrArg₂ (fun type fields => (key, type) :: fields) type fields, findings⟩

end

/-! ## Repeated elements -/

theorem elementTypes_append (hint : Text) (before after : List Json) (s : Inference) :
    elementTypes hint (before ++ after) s =
      ((elementTypes hint before s).1 ++
          (elementTypes hint after (elementTypes hint before s).2).1,
        (elementTypes hint after (elementTypes hint before s).2).2) := by
  induction before generalizing s with
  | nil => rfl
  | cons element rest ih => rw [List.cons_append, elementTypes_cons, elementTypes_cons, ih]; rfl

theorem fieldTypes_append (before after : List (Text × Json)) (s : Inference) :
    fieldTypes (before ++ after) s =
      ((fieldTypes before s).1 ++ (fieldTypes after (fieldTypes before s).2).1,
        (fieldTypes after (fieldTypes before s).2).2) := by
  induction before generalizing s with
  | nil => rfl
  | cons member rest ih =>
    obtain ⟨key, value⟩ := member
    rw [List.cons_append, fieldTypes_cons, fieldTypes_cons, ih]
    rfl

theorem exists_visit_of_mem (hint : Text) {element : Json} {elements : List Json}
    (member : element ∈ elements) (s : Inference) :
    ∃ start, (typeOf hint element start).1 ∈ (elementTypes hint elements s).1 ∧
      KeepsShapes (typeOf hint element start).2 (elementTypes hint elements s).2 := by
  obtain ⟨before, after, rfl⟩ := List.append_of_mem member
  rw [elementTypes_append, elementTypes_cons]
  exact ⟨_, by simp, .later (elementTypes_later hint after _)⟩

theorem arrayType_of_mem {type : TypeExpr} {before : List TypeExpr} (after : List TypeExpr)
    (member : type ∈ before) :
    arrayType (before ++ type :: after) = arrayType (before ++ after) :=
  congrArg TypeExpr.array
    (eraseDupsBy_append_cons_of_mem TypeExpr.text (List.mem_map_of_mem member) after)

/-- Whether one value becomes another when an element of one of its arrays, however deep, is written
once more, anywhere behind its first place. -/
inductive RepeatsElement : Json → Json → Prop
  | again {before : List Json} (after : List Json) {element : Json} (earlier : element ∈ before) :
      RepeatsElement (.array (before ++ after)) (.array (before ++ element :: after))
  | element (before after : List Json) {value value' : Json} :
      RepeatsElement value value' →
        RepeatsElement (.array (before ++ value :: after)) (.array (before ++ value' :: after))
  | member (before after : List (Text × Json)) (key : Text) {value value' : Json} :
      RepeatsElement value value' →
        RepeatsElement (.object (before ++ (key, value) :: after))
          (.object (before ++ (key, value') :: after))

def SameVisits (value value' : Json) : Prop :=
  ∀ hint s, (typeOf hint value' s).1 = (typeOf hint value s).1 ∧
    (typeOf hint value' s).2.findings = (typeOf hint value s).2.findings

/-- The second visit of an element adds nothing, and what follows it does not see the difference. -/
theorem sameVisits_again {before : List Json} (after : List Json) {element : Json}
    (earlier : element ∈ before) :
    SameVisits (.array (before ++ after)) (.array (before ++ element :: after)) := by
  intro hint s
  obtain ⟨start, listed, keeps⟩ := exists_visit_of_mem (Naming.singular hint) earlier s
  obtain ⟨type, findings⟩ := typeOf_again (Naming.singular hint) (Naming.singular hint) element keeps
  obtain ⟨types, final⟩ := elementTypes_congr (Naming.singular hint) after findings
  rw [typeOf_array, typeOf_array, elementTypes_append, elementTypes_append, elementTypes_cons]
  refine ⟨?_, final⟩
  rw [type, types]
  exact arrayType_of_mem _ listed

theorem SameVisits.element {value value' : Json} (same : SameVisits value value')
    (before after : List Json) :
    SameVisits (.array (before ++ value :: after)) (.array (before ++ value' :: after)) := by
  intro hint s
  obtain ⟨type, findings⟩ := same (Naming.singular hint)
    (elementTypes (Naming.singular hint) before s).2
  obtain ⟨types, final⟩ := elementTypes_congr (Naming.singular hint) after findings
  rw [typeOf_array, typeOf_array, elementTypes_append, elementTypes_append, elementTypes_cons,
    elementTypes_cons, type, types]
  exact ⟨rfl, final⟩

theorem SameVisits.member {value value' : Json} (same : SameVisits value value')
    (before after : List (Text × Json)) (key : Text) :
    SameVisits (.object (before ++ (key, value) :: after))
      (.object (before ++ (key, value') :: after)) := by
  intro hint s
  have fields : ∀ opened, (fieldTypes (before ++ (key, value') :: after) opened).1 =
        (fieldTypes (before ++ (key, value) :: after) opened).1 ∧
      (fieldTypes (before ++ (key, value') :: after) opened).2.findings =
        (fieldTypes (before ++ (key, value) :: after) opened).2.findings := by
    intro opened
    obtain ⟨type, findings⟩ := same (Naming.typeName key) (fieldTypes before opened).2
    obtain ⟨others, final⟩ := fieldTypes_congr after findings
    rw [fieldTypes_append, fieldTypes_append, fieldTypes_cons, fieldTypes_cons, type, others]
    exact ⟨rfl, final⟩
  -- The object is closed with the same fields and findings, so it is found or new in both visits.
  obtain ⟨sameFields, inside⟩ := fields (s.openObject hint).2
  obtain ⟨added, visit⟩ := fieldTypes_visit (before ++ (key, value) :: after) (s.openObject hint).2
  obtain ⟨added', visit'⟩ :=
    fieldTypes_visit (before ++ (key, value') :: after) (s.openObject hint).2
  rw [typeOf_object, typeOf_object, sameFields]
  exact closeObject_congr rfl visit' visit inside

theorem RepeatsElement.sameVisits {value value' : Json} (repeats : RepeatsElement value value') :
    SameVisits value value' := by
  induction repeats with
  | again after earlier => exact sameVisits_again after earlier
  | element before after _ ih => exact ih.element before after
  | member before after key _ ih => exact ih.member before after key

theorem RepeatsElement.infer_eq {document document' : Json}
    (repeats : RepeatsElement document document') (root : Text) :
    infer root document' = infer root document := by
  -- A repetition does not change whether the root is an array or an object.
  have hints : rootHint root document' = rootHint root document := by
    cases repeats with
    | again | element | member => rfl
  obtain ⟨type, findings⟩ := repeats.sameVisits (rootHint root document) {}
  obtain ⟨_, _, visited⟩ := Inference.findings_eq_iff.1 findings
  have interfaces : (infer root document').interfaces = (infer root document).interfaces := by
    rw [infer_interfaces, infer_interfaces, visitRoot, hints]
    exact visited
  have roots : (infer root document').root = (infer root document).root := by
    cases repeats with
    | again | element =>
      rw [infer_root, infer_root]
      exact congrArg (fun type => some (root, type)) type
    | member => rfl
  show Declarations.mk (infer root document').root (infer root document').interfaces = _
  rw [roots, interfaces]

theorem SameVisits.trans {value value' value'' : Json} (first : SameVisits value value')
    (second : SameVisits value' value'') : SameVisits value value'' := by
  intro hint s
  obtain ⟨type, findings⟩ := first hint s
  obtain ⟨type', findings'⟩ := second hint s
  exact ⟨type'.trans type, findings'.trans findings⟩

/-! ## Second visits and repeated elements -/

/-- A value that was visited in any state gets the same type again in every later state, under
whatever hint, and the names that are taken, the shapes that are known and the interfaces are left as
they are there. So elements of arrays can be repeated wherever they stand: the types, the findings
and the declarations stay the same. -/
theorem visited_again :
    (∀ (value : Json) (hint hint' : Text) (s t : Inference), Later (typeOf hint value s).2 t →
      (typeOf hint' value t).1 = (typeOf hint value s).1 ∧
        (typeOf hint' value t).2.findings = t.findings) ∧
    ∀ document document', Relation.ReflTransGen RepeatsElement document document' →
      SameVisits document document' ∧
        ∀ root, infer root document' = infer root document := by
  refine ⟨fun value hint hint' s t later => typeOf_again hint hint' value (.later later), ?_⟩
  intro document document' repeats
  induction repeats with
  | refl => exact ⟨fun _ _ => ⟨rfl, rfl⟩, fun _ => rfl⟩
  | tail _ last ih =>
    exact ⟨ih.1.trans last.sameVisits, fun root => (last.infer_eq root).trans (ih.2 root)⟩

/-- A nested object that is visited inside the root object and again after the root object was
closed, and an array in which it is repeated. -/
theorem home_visited_again :
    let home : Json := .object [("at", .object [("city", .null)])]
    let s := (({} : Inference).openObject "RootObject").2
    let t := ((typeOf "Home" home s).2.closeObject "RootObject" 0 [("home", .named "Home")]).2
    Later (typeOf "Home" home s).2 t ∧ (typeOf "Work" home t).1 = .named "Home" ∧
      (typeOf "Work" home t).2.findings = t.findings ∧
      Relation.ReflTransGen RepeatsElement (.array [home, .null]) (.array [home, .null, home]) ∧
      SameVisits (.array [home, .null]) (.array [home, .null, home]) ∧
      infer "Homes" (.array [home, .null, home]) = infer "Homes" (.array [home, .null]) := by
  intro home s t
  have later : Later (typeOf "Home" home s).2 t := .single (.closed _ _ _ _)
  have repeats : Relation.ReflTransGen RepeatsElement (.array [home, .null])
      (.array [home, .null, home]) :=
    .single (@RepeatsElement.again [home, .null] [] home List.mem_cons_self)
  obtain ⟨type, findings⟩ := visited_again.1 home "Home" "Work" s t later
  obtain ⟨visits, declarations⟩ := visited_again.2 _ _ repeats
  exact ⟨later, type, findings, repeats, visits, declarations "Homes"⟩

end Snippet.TypeScript
