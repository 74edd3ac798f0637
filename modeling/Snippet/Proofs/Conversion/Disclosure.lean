import Snippet.Proofs.Conversion.Failure
import Snippet.Proofs.Schema.Document
import Snippet.Proofs.TypeScript.Visit
import Mathlib.Data.List.Forall2

/-!
# What declarations disclose

The declarations for a document depend on its skeleton only: on its keys in their order, on the
lengths of its arrays and on the kinds of its scalars. Every function on the way from a document to
its declarations gives the same result for a value as for its skeleton, from any state of an
inference, so two documents of one skeleton cannot be told apart by what is written for them.
-/

namespace Snippet

namespace Json

/-! ## Skeletons -/

/-- Whether two values have the same keys in the same order, arrays of the same length, and scalars
of the same kind at corresponding places, at every depth. -/
inductive SameSkeleton : Json → Json → Prop
  | null : SameSkeleton .null .null
  | bool (b b' : Bool) : SameSkeleton (.bool b) (.bool b')
  | number (n n' : Number) : SameSkeleton (.number n) (.number n')
  | string (s s' : Text) : SameSkeleton (.string s) (.string s')
  | array {elements elements' : List Json} (length : elements.length = elements'.length)
      (each : ∀ pair ∈ elements.zip elements', SameSkeleton pair.1 pair.2) :
      SameSkeleton (.array elements) (.array elements')
  | object {members members' : List (Text × Json)}
      (keys : members.map Prod.fst = members'.map Prod.fst)
      (each : ∀ pair ∈ members.zip members', SameSkeleton pair.1.2 pair.2.2) :
      SameSkeleton (.object members) (.object members')

mutual

/-- A value with every scalar replaced by a fixed one of its kind. -/
def skeleton : Json → Json
  | null => null
  | bool _ => bool false
  | number _ => number (.ofInt 0)
  | string _ => string []
  | array elements => array (skeletonOfElements elements)
  | object members => object (skeletonOfMembers members)

def skeletonOfElements : List Json → List Json
  | [] => []
  | element :: rest => skeleton element :: skeletonOfElements rest

def skeletonOfMembers : List (Text × Json) → List (Text × Json)
  | [] => []
  | (key, value) :: rest => (key, skeleton value) :: skeletonOfMembers rest

end

theorem skeletonOfElements_eq_map (elements : List Json) :
    skeletonOfElements elements = elements.map skeleton := by
  induction elements with
  | nil => rfl
  | cons element rest ih => rw [skeletonOfElements, ih, List.map_cons]

theorem skeletonOfMembers_eq_map (members : List (Text × Json)) :
    skeletonOfMembers members = members.map fun member => (member.1, member.2.skeleton) := by
  induction members with
  | nil => rfl
  | cons member rest ih => rw [skeletonOfMembers, ih, List.map_cons]

theorem map_eq_map_iff_zip {α β : Type} {f : α → β} {l l' : List α} :
    l.map f = l'.map f ↔ l.length = l'.length ∧ ∀ pair ∈ l.zip l', f pair.1 = f pair.2 := by
  rw [← List.forall₂_eq_eq_eq, List.forall₂_map_left_iff, List.forall₂_map_right_iff,
    List.forall₂_iff_zip]
  simp

theorem SameSkeleton.skeleton_eq {value value' : Json} (same : value.SameSkeleton value') :
    value.skeleton = value'.skeleton := by
  induction same with
  | null | bool | number | string => rfl
  | array length _ ih =>
    rw [skeleton, skeleton, skeletonOfElements_eq_map, skeletonOfElements_eq_map,
      map_eq_map_iff_zip.2 ⟨length, ih⟩]
  | object keys _ ih =>
    obtain ⟨length, sameKeys⟩ := map_eq_map_iff_zip.1 keys
    rw [skeleton, skeleton, skeletonOfMembers_eq_map, skeletonOfMembers_eq_map,
      map_eq_map_iff_zip.2 ⟨length, fun pair paired => ?_⟩]
    rw [sameKeys pair paired, ih pair paired]

theorem sameSkeleton_of_skeleton_eq {value value' : Json}
    (same : value.skeleton = value'.skeleton) : value.SameSkeleton value' := by
  -- A value of another kind has a skeleton of another kind, so only equal kinds are left.
  induction value using Json.induction generalizing value' with
  | null =>
    cases value' with
    | null => exact .null
    | _ => simp [skeleton] at same
  | bool b =>
    cases value' with
    | bool b' => exact .bool b b'
    | _ => simp [skeleton] at same
  | number n =>
    cases value' with
    | number n' => exact .number n n'
    | _ => simp [skeleton] at same
  | string s =>
    cases value' with
    | string s' => exact .string s s'
    | _ => simp [skeleton] at same
  | array elements ih =>
    cases value' with
    | array elements' =>
      rw [skeleton, skeleton, array.injEq, skeletonOfElements_eq_map, skeletonOfElements_eq_map,
        map_eq_map_iff_zip] at same
      exact .array same.1 fun pair paired =>
        ih pair.1 (List.of_mem_zip paired).1 (same.2 pair paired)
    | _ => simp [skeleton] at same
  | object members ih =>
    cases value' with
    | object members' =>
      rw [skeleton, skeleton, object.injEq, skeletonOfMembers_eq_map, skeletonOfMembers_eq_map,
        map_eq_map_iff_zip] at same
      refine .object (map_eq_map_iff_zip.2 ⟨same.1, ?_⟩) ?_
      · exact fun pair paired => (Prod.mk.inj (same.2 pair paired)).1
      · exact fun pair paired => ih pair.1 (List.of_mem_zip paired).1
          (Prod.mk.inj (same.2 pair paired)).2
    | _ => simp [skeleton] at same

end Json

/-! ## Types -/

namespace TypeScript

mutual

theorem typeOf_skeleton (hint : Text) (value : Json) (s : Inference) :
    typeOf hint value.skeleton s = typeOf hint value s := by
  match value with
  | .null | .bool _ | .number _ | .string _ => rfl
  | .array elements =>
    rw [Json.skeleton, typeOf_array, typeOf_array, elementTypes_skeleton]
  | .object members =>
    rw [Json.skeleton, typeOf_object, typeOf_object, fieldTypes_skeleton]

theorem elementTypes_skeleton (hint : Text) (elements : List Json) (s : Inference) :
    elementTypes hint (Json.skeletonOfElements elements) s = elementTypes hint elements s := by
  match elements with
  | [] => rfl
  | element :: rest =>
    rw [Json.skeletonOfElements, elementTypes_cons, elementTypes_cons, typeOf_skeleton,
      elementTypes_skeleton]

theorem fieldTypes_skeleton (members : List (Text × Json)) (s : Inference) :
    fieldTypes (Json.skeletonOfMembers members) s = fieldTypes members s := by
  match members with
  | [] => rfl
  | (key, value) :: rest =>
    rw [Json.skeletonOfMembers, fieldTypes_cons, fieldTypes_cons, typeOf_skeleton,
      fieldTypes_skeleton]

end

theorem infer_skeleton (root : Text) (document : Json) :
    infer root document.skeleton = infer root document := by
  cases document with
  | null | bool | number | string => rfl
  | array elements => simp only [Json.skeleton, infer, elementTypes_skeleton]
  | object members =>
    exact congrArg (fun visit => Declarations.mk none visit.2.interfaces)
      (typeOf_skeleton root (.object members) {})

end TypeScript

/-! ## Schemas -/

namespace Schema

theorem fieldKind_skeleton (value : Json) : FieldKind.of value.skeleton = FieldKind.of value := by
  cases value <;> rfl

theorem classify_skeletonOfMembers (members : List (Text × Json)) :
    classify (Json.skeletonOfMembers members) = classify members := by
  simp [classify, Json.skeletonOfMembers_eq_map, fieldKind_skeleton]

end Schema

/-! ## Inputs -/

/-- A value starts with a character that is no blank. -/
theorem Json.not_blank_of_readValue {fuel depth : Nat} {t rest : Text} {value : Json}
    (read : readValue fuel depth t = .ok (value, rest)) :
    ∃ c ∈ t, Unicode.isBlank c = false := by
  cases fuel with
  | zero => simp [readValue, refuse] at read
  | succ fuel =>
    rw [readValue.eq_def] at read
    cases start : skipSpace t with
    | nil => simp [start, refuse] at read
    | cons c behind =>
      have remains : c ∈ skipSpace t := start ▸ List.mem_cons_self
      refine ⟨c, (List.dropWhile_suffix isSpace).subset remains, ?_⟩
      have marks : ['"', '[', '\x7b', 'n', 't', 'f', '-'].any Unicode.isBlank = false := by decide
      -- Every other character is refused as the start of a value.
      have starts : c ∈ ['"', '[', '\x7b', 'n', 't', 'f', '-'] ∨ c.isDigit = true := by
        by_contra other
        simp only [List.mem_cons, List.not_mem_nil, or_false, not_or, Bool.not_eq_true] at other
        simp [start, refuse, other] at read
      cases starts with
      | inl mark => exact Bool.eq_false_iff.2 (List.any_eq_false.1 marks c mark)
      | inr digit => exact Unicode.isBlank_of_isDigit digit

theorem isBlank_of_readJson {input : Text} {document : Json} (read : readJson input = .ok document) :
    Text.isBlank input = false := by
  cases first : Json.readValue (2 * input.length + 2) Json.depthLimit input with
  | error fault =>
    rw [readJson, Json.read, Json.readDocument, first] at read
    contradiction
  | ok result =>
    obtain ⟨c, listed, filled⟩ := Json.not_blank_of_readValue first
    rw [Text.isBlank, List.all_eq_false]
    exact ⟨c, listed, by simp [filled]⟩

/-! ## Conversions -/

/-- What is shown of an outcome: the output, or the kind and the wording of the error. -/
def Outcome.shown (outcome : Outcome) : Except (ConversionError.Kind × Text) Text :=
  outcome.mapError fun e => (e.kind, e.message)

section Readers

variable {input input' : Text} {document document' : Json}

theorem declareTypes_eq_of_sameSkeleton (read : readJson input = .ok document)
    (read' : readJson input' = .ok document') (same : document.SameSkeleton document')
    (root : Text) : declareTypes root input = declareTypes root input' := by
  -- Inference sees no more of a document than its skeleton.
  have declarations : TypeScript.infer root document = TypeScript.infer root document' := by
    rw [← TypeScript.infer_skeleton, same.skeleton_eq, TypeScript.infer_skeleton]
  rw [declareTypes, declareTypes, read, read', Except.map, Except.map, declarations]

theorem shown_declareSchema_of_sameSkeleton (read : readJson input = .ok document)
    (read' : readJson input' = .ok document') (same : document.SameSkeleton document')
    (dialect : Schema.Dialect) :
    Outcome.shown (declareSchema dialect input) = Outcome.shown (declareSchema dialect input') := by
  have skeletons := same.skeleton_eq
  rw [declareSchema, declareSchema, readObject, readObject, read, read']
  cases same with
  -- The refusal names the kind of the document, which both have in common.
  | null | bool | number | string | array => rfl
  | @object members members' _ _ =>
    rw [Json.skeleton, Json.skeleton, Json.object.injEq] at skeletons
    have fields : Schema.classify members = Schema.classify members' := by
      rw [← Schema.classify_skeletonOfMembers, skeletons, Schema.classify_skeletonOfMembers]
    rw [Except.map, Except.map, fields]

theorem shown_run_of_sameSkeleton (read : readJson input = .ok document)
    (read' : readJson input' = .ok document') (same : document.SameSkeleton document')
    {c : Conversion} (reader : c ∈ Conversion.jsonReaders) (config : Config) :
    Outcome.shown (c.run config input) = Outcome.shown (c.run config input') := by
  simp only [Conversion.jsonReaders, List.mem_cons, List.not_mem_nil, or_false] at reader
  rcases reader with rfl | rfl | rfl | rfl | rfl
  · exact congrArg Outcome.shown
      (declareTypes_eq_of_sameSkeleton read read' same config.rootTypeName)
  all_goals exact shown_declareSchema_of_sameSkeleton read read' same _

/-- Two inputs that write documents of one skeleton have the same result in every conversion that
reads JSON texts, whatever the configuration is. -/
theorem skeleton_determines_result (read : readJson input = .ok document)
    (read' : readJson input' = .ok document') (same : document.SameSkeleton document')
    (config : Config) :
    ∀ c ∈ Conversion.jsonReaders,
      Outcome.shown (transform c.id config input) = Outcome.shown (transform c.id config input') := by
  intro c reader
  rw [transform_id c config (isBlank_of_readJson read),
    transform_id c config (isBlank_of_readJson read')]
  exact shown_run_of_sameSkeleton read read' same reader config

end Readers

/-- A number, a string and a boolean at three depths, and other ones in their places. -/
theorem reading_kept_secret :
    let document (n : Json.Number) (unit : Text) (valid : Bool) : Json :=
      .object [("value", .number n), ("more", .array [.string unit, .object [("on", .bool valid)]])]
    let input : Text := "\x7b\"value\":1,\"more\":[\"kg\",\x7b\"on\":true\x7d]\x7d"
    let input' : Text := "\x7b\"value\":-2.5,\"more\":[\"\",\x7b\"on\":false\x7d]\x7d"
    readJson input = .ok (document ⟨false, 1, [], none⟩ "kg" true) ∧
      readJson input' = .ok (document ⟨true, 2, [5], none⟩ "" false) ∧
      ∀ c ∈ Conversion.jsonReaders,
        Outcome.shown (transform c.id {} input) = Outcome.shown (transform c.id {} input') := by
  intro document input input'
  have reads (n : Json.Number) (unit : Text) (valid : Bool) (inRange : n.InRange) :
      readJson (Json.compact (document n unit valid)) = .ok (document n unit valid) := by
    have shallow : (document n unit valid).height ≤ Json.depthLimit := by
      show 3 ≤ Json.depthLimit
      decide
    rcases readJson_compact shallow with ⟨_, read⟩ | ⟨beyond, _⟩
    · exact read
    · exact absurd (List.forall_mem_singleton.2 inRange) beyond
  have written : Json.compact (document ⟨false, 1, [], none⟩ "kg" true) = input := by
    decide +kernel
  have written' : Json.compact (document ⟨true, 2, [5], none⟩ "" false) = input' := by
    decide +kernel
  have read := reads ⟨false, 1, [], none⟩ "kg" true ⟨by decide +kernel, by decide +kernel⟩
  have read' := reads ⟨true, 2, [5], none⟩ "" false ⟨by decide +kernel, by decide +kernel⟩
  rw [written] at read
  rw [written'] at read'
  have same : (document ⟨false, 1, [], none⟩ "kg" true).SameSkeleton
      (document ⟨true, 2, [5], none⟩ "" false) := Json.sameSkeleton_of_skeleton_eq rfl
  exact ⟨read, read', skeleton_determines_result read read' same {}⟩

end Snippet
