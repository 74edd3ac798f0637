import Snippet.Proofs.Json.Structure
import Snippet.Proofs.TypeScript.TypeText

/-!
# Values of a type

What it means that a JSON value is of a type when interfaces are declared. Interfaces that are
declared in addition take no value away, and values of one type have one height. The latter is why
an object never has the type of an object inside it.
-/

namespace Snippet.TypeScript

/-- Whether a value inhabits a type under declared interfaces: a scalar inhabits the type of its
kind, an array a type whose members are those of its elements, and an object the interface that has
its keys in their order and types for their values. -/
def Inhabits (declared : List Interface) (value : Json) (type : TypeExpr) : Prop :=
  match value, type with
  | .null, .null => True
  | .bool _, .boolean => True
  | .number _, .number => True
  | .string _, .string => True
  | .array elements, .array members =>
    (∀ element ∈ elements, ∃ member ∈ members, Inhabits declared element member) ∧
      ∀ member ∈ members, ∃ element, ∃ _ : element ∈ elements, Inhabits declared element member
  | .object members, .named name =>
    ∃ i ∈ declared, i.name = name ∧ members.map Prod.fst = i.fields.map Prod.fst ∧
      ∀ pair ∈ members.zip i.fields, Inhabits declared pair.1.2 pair.2.2
  | _, _ => False
termination_by sizeOf value
decreasing_by
  · have smaller := List.sizeOf_lt_of_mem ‹_›
    simp only [Json.array.sizeOf_spec]
    omega
  · have smaller := List.sizeOf_lt_of_mem ‹_›
    simp only [Json.array.sizeOf_spec]
    omega
  · obtain ⟨⟨key, inner⟩, field⟩ := pair
    have smaller := List.sizeOf_lt_of_mem (List.of_mem_zip ‹_›).1
    simp only [Json.object.sizeOf_spec, Prod.mk.sizeOf_spec] at smaller ⊢
    omega

def MemberInhabits (declared : List Interface) (member : Text × Json)
    (field : Text × TypeExpr) : Prop :=
  member.1 = field.1 ∧ Inhabits declared member.2 field.2

section

variable {declared : List Interface} {type : TypeExpr}

/-! ## Values kind by kind -/

theorem inhabits_null : Inhabits declared .null type ↔ type = .null := by
  cases type <;> simp [Inhabits]

theorem inhabits_bool {b : Bool} : Inhabits declared (.bool b) type ↔ type = .boolean := by
  cases type <;> simp [Inhabits]

theorem inhabits_number {n : Json.Number} :
    Inhabits declared (.number n) type ↔ type = .number := by
  cases type <;> simp [Inhabits]

theorem inhabits_string {t : Text} : Inhabits declared (.string t) type ↔ type = .string := by
  cases type <;> simp [Inhabits]

theorem inhabits_array {elements : List Json} :
    Inhabits declared (.array elements) type ↔
      ∃ members, type = .array members ∧
        (∀ element ∈ elements, ∃ member ∈ members, Inhabits declared element member) ∧
        ∀ member ∈ members, ∃ element ∈ elements, Inhabits declared element member := by
  cases type <;> simp [Inhabits]

/-- The keys of members and fields are the same and the values are of the fields' types, place by
place: the two lists are related member by member. -/
theorem forall₂_memberInhabits {members : List (Text × Json)} {fields : Fields} :
    List.Forall₂ (MemberInhabits declared) members fields ↔
      members.map Prod.fst = fields.map Prod.fst ∧
        ∀ pair ∈ members.zip fields, Inhabits declared pair.1.2 pair.2.2 := by
  induction members generalizing fields with
  | nil =>
    cases fields with
    | nil => simp
    | cons field rest => simp
  | cons member others ih =>
    cases fields with
    | nil => simp
    | cons field rest =>
      simp only [List.forall₂_cons, ih, MemberInhabits, List.map_cons, List.cons.injEq,
        List.zip_cons_cons, List.mem_cons, forall_eq_or_imp]
      tauto

theorem inhabits_object {members : List (Text × Json)} :
    Inhabits declared (.object members) type ↔
      ∃ i ∈ declared, type = .named i.name ∧
        List.Forall₂ (MemberInhabits declared) members i.fields := by
  cases type with
  | named name =>
    simp only [Inhabits, forall₂_memberInhabits, TypeExpr.named.injEq, eq_comm]
  | null | boolean | number | string | array => simp [Inhabits]

theorem exists_elements {value : Json} {members : List TypeExpr}
    (inhabits : Inhabits declared value (.array members)) :
    ∃ elements, value = .array elements := by
  cases value with
  | array elements => exact ⟨elements, rfl⟩
  | null | bool | number | string | object => simp [Inhabits] at inhabits

theorem exists_members {value : Json} {name : Text}
    (inhabits : Inhabits declared value (.named name)) :
    ∃ members, value = .object members := by
  cases value with
  | object members => exact ⟨members, rfl⟩
  | null | bool | number | string | array => simp [Inhabits] at inhabits

end

/-! ## More interfaces -/

theorem Inhabits.mono {declared more : List Interface} (subset : declared ⊆ more) {value : Json}
    {type : TypeExpr} (inhabits : Inhabits declared value type) : Inhabits more value type := by
  induction value using Json.induction generalizing type with
  | null => exact inhabits_null.2 (inhabits_null.1 inhabits)
  | bool => exact inhabits_bool.2 (inhabits_bool.1 inhabits)
  | number => exact inhabits_number.2 (inhabits_number.1 inhabits)
  | string => exact inhabits_string.2 (inhabits_string.1 inhabits)
  | array elements ih =>
    obtain ⟨members, rfl, forth, back⟩ := inhabits_array.1 inhabits
    refine inhabits_array.2 ⟨members, rfl, ?_, ?_⟩
    · intro element listed
      obtain ⟨member, inMembers, inhabits⟩ := forth element listed
      exact ⟨member, inMembers, ih element listed inhabits⟩
    · intro member inMembers
      obtain ⟨element, listed, inhabits⟩ := back member inMembers
      exact ⟨element, listed, ih element listed inhabits⟩
  | object members ih =>
    obtain ⟨i, known, rfl, each⟩ := inhabits_object.1 inhabits
    refine inhabits_object.2 ⟨i, subset known, rfl, ?_⟩
    -- The induction hypothesis is about members, which the zip of members and fields gives.
    rw [forall₂_memberInhabits] at each ⊢
    refine ⟨each.1, ?_⟩
    rintro ⟨member, field⟩ listed
    exact ih member (List.of_mem_zip listed).1 (each.2 _ listed)

theorem MemberInhabits.mono {declared more : List Interface} (subset : declared ⊆ more)
    {member : Text × Json} {field : Text × TypeExpr}
    (inhabits : MemberInhabits declared member field) : MemberInhabits more member field :=
  ⟨inhabits.1, inhabits.2.mono subset⟩

/-! ## Heights -/

theorem exists_related {α β : Type} {R : α → β → Prop} {left : List α} {right : List β}
    (related : List.Forall₂ R left right) {a : α} (listed : a ∈ left) : ∃ b ∈ right, R a b := by
  induction related with
  | nil => simp at listed
  | cons first _ ih =>
    cases List.mem_cons.1 listed with
    | inl same =>
      subst same
      exact ⟨_, List.mem_cons_self, first⟩
    | inr later =>
      obtain ⟨b, inRight, both⟩ := ih later
      exact ⟨b, List.mem_cons_of_mem _ inRight, both⟩

/-- If no two interfaces share a name, no value of a type is higher than another value of it. -/
theorem height_le_of_inhabits {declared : List Interface}
    (distinct : (declared.map Interface.name).Nodup) {value other : Json} {type : TypeExpr}
    (left : Inhabits declared value type) (right : Inhabits declared other type) :
    value.height ≤ other.height := by
  induction value using Json.induction generalizing other type with
  | null | bool | number | string => exact Nat.zero_le _
  | array elements ih =>
    obtain ⟨members, rfl, forth, _⟩ := inhabits_array.1 left
    obtain ⟨elements', rfl⟩ := exists_elements right
    obtain ⟨_, same, _, back⟩ := inhabits_array.1 right
    obtain rfl := TypeExpr.array.inj same
    refine Nat.succ_le_succ (Json.heightOfElements_le_iff.2 fun element listed => ?_)
    -- An element of the other array inhabits the same member of the type.
    obtain ⟨member, inMembers, here⟩ := forth element listed
    obtain ⟨element', listed', there⟩ := back member inMembers
    exact Nat.le_trans (ih element listed here there) (Json.height_le_heightOfElements listed')
  | object members ih =>
    obtain ⟨i, known, rfl, each⟩ := inhabits_object.1 left
    obtain ⟨members', rfl⟩ := exists_members right
    obtain ⟨j, known', same, each'⟩ := inhabits_object.1 right
    -- The type names one interface only, so both objects have its fields.
    obtain rfl : i = j :=
      List.inj_on_of_nodup_map distinct known known' (TypeExpr.named.inj same)
    refine Nat.succ_le_succ (Json.heightOfMembers_le_iff.2 fun member listed => ?_)
    obtain ⟨field, inFields, here⟩ := exists_related each listed
    obtain ⟨member', listed', there⟩ := exists_related (List.Forall₂.flip each') inFields
    exact Nat.le_trans (ih member listed here.2 there.2) (Json.height_le_heightOfMembers listed')

end Snippet.TypeScript
