import Snippet.Config
import Snippet.Proofs.OrderedTable
import Mathlib.Data.List.Nodup

/-!
# Partial configurations

A configuration is read from any object whose members with the names of settings are texts. These
members give their settings, the other settings keep their defaults, and neither the order of the
members nor members with other names make a difference.
-/

namespace Snippet

/-! ## Records of texts -/

namespace Json

theorem asText_eq_ok_iff {value : Json} {text : Text} :
    asText value = .ok text ↔ value = .string text := by
  cases value <;> simp [asText]

/-- The members of a record in which all fields are texts are accepted if those with the name of a
field are texts. -/
theorem checkMembers_texts_iff {names : List Text} {members : Members} :
    checkMembers (names.map fun name => .of name asText) members = .ok () ↔
      ∀ member ∈ members, member.1 ∈ names → ∃ text, member.2 = .string text := by
  induction members with
  | nil => simp [checkMembers]
  | cons member rest ih =>
    obtain ⟨name, value⟩ := member
    rw [List.forall_mem_cons, ← ih, checkMembers, List.find?_map]
    cases found :
        names.find? ((fun field : Field => decide (field.name = name)) ∘ (.of · asText)) with
    | none =>
      have unknown : name ∉ names := by
        intro known
        simpa [Field.of] using List.find?_eq_none.1 found name known
      simp [unknown]
    | some other =>
      obtain rfl : other = name := by simpa [Field.of] using List.find?_some found
      have known : other ∈ names := List.mem_of_find?_eq_some found
      cases value <;> simp [known, Field.of, asText, Except.map]

end Json

namespace Config

open Json (Mismatch)

/-! ## Settings -/

/-- A text that can be set: its name in JSON and its place in a configuration. -/
structure Setting where
  name : Text
  value : Config → Text

def settings : List Setting :=
  [⟨"sqlTableName", sqlTableName⟩, ⟨"rootTypeName", rootTypeName⟩,
   ⟨"componentName", componentName⟩, ⟨"tailwindClass", tailwindClass⟩,
   ⟨"placeholderUrl", placeholderUrl⟩]

theorem fields_eq : fields = (settings.map Setting.name).map fun name => .of name Json.asText :=
  rfl

theorem toJson_eq (config : Config) :
    config.toJson = .object (settings.map fun s => (s.name, .string (s.value config))) :=
  rfl

theorem exists_config {isText : Setting → Text → Prop} (given : ∀ s ∈ settings, ∃ t, isText s t) :
    ∃ config : Config, ∀ s ∈ settings, isText s (s.value config) := by
  simp only [settings, List.forall_mem_cons] at given ⊢
  obtain ⟨⟨table, isTable⟩, ⟨root, isRoot⟩, ⟨component, isComponent⟩, ⟨classes, isClasses⟩,
    ⟨address, isAddress⟩, _⟩ := given
  exact ⟨⟨table, root, component, classes, address⟩, isTable, isRoot, isComponent, isClasses,
    isAddress, by simp⟩

/-! ## Reading -/

/-- Whether a text is what the members of an object make of a setting: the text under its name, or
its default if there is nothing under its name. -/
structure Setting.IsSet (s : Setting) (members : Json.Members) (text : Text) : Prop where
  given : ∀ value, (s.name, value) ∈ members → value = .string text
  left : s.name ∉ Table.keys members → text = s.value {}

theorem Setting.IsSet.congr {s : Setting} {members others : Json.Members} {text : Text}
    (same : ∀ value, (s.name, value) ∈ others ↔ (s.name, value) ∈ members)
    (set : s.IsSet members text) : s.IsSet others text where
  given value listed := set.given value ((same value).1 listed)
  left absent := by
    refine set.left fun known => absent ?_
    obtain ⟨⟨name, value⟩, listed, named⟩ := List.mem_map.1 known
    obtain rfl : name = s.name := named
    exact List.mem_map_of_mem ((same value).2 listed)

section

variable {members : Json.Members} (distinct : (Table.keys members).Nodup)

include distinct

theorem textOr_eq_ok_iff {s : Setting} {text : Text} :
    textOr (s.value {}) s.name members = .ok text ↔ s.IsSet members text := by
  rw [textOr]
  cases found : Table.get? s.name members with
  | none =>
    have absent := Table.get?_eq_none_iff.1 found
    constructor
    · intro default
      obtain rfl := Except.ok.inj default
      exact ⟨fun _ listed => absurd (List.mem_map_of_mem listed) absent, fun _ => rfl⟩
    · intro set
      rw [set.left absent]
  | some value =>
    have listed := Table.mem_of_get?_eq_some found
    constructor
    · intro read
      obtain rfl := Json.asText_eq_ok_iff.1 read
      refine ⟨fun other alsoListed => ?_, fun absent => ?_⟩
      · rw [Table.get?_eq_some_of_mem distinct alsoListed] at found
        exact Option.some.inj found
      · exact absurd (List.mem_map_of_mem listed) absent
    · intro set
      exact Json.asText_eq_ok_iff.2 (set.given value listed)

theorem exists_isSet_iff {s : Setting} :
    (∃ text, s.IsSet members text) ↔
      ∀ value, (s.name, value) ∈ members → ∃ text, value = .string text := by
  constructor
  · rintro ⟨text, set⟩ value listed
    exact ⟨text, set.given value listed⟩
  · intro texts
    simp only [← textOr_eq_ok_iff distinct, textOr]
    cases found : Table.get? s.name members with
    | none => exact ⟨_, rfl⟩
    | some value =>
      obtain ⟨text, rfl⟩ := texts value (Table.mem_of_get?_eq_some found)
      exact ⟨text, rfl⟩

theorem ofMembers_eq_ok_iff {config : Config} :
    ofMembers members = .ok config ↔ ∀ s ∈ settings, s.IsSet members (s.value config) := by
  have opened (read : Except Mismatch Text) (build : Text → Except Mismatch Config) :
      (read >>= build) = .ok config ↔ ∃ text, read = .ok text ∧ build text = .ok config := by
    cases read <;> simp [bind, Except.bind]
  simp only [← textOr_eq_ok_iff distinct]
  -- One bind for each setting on the one side, one conjunct for each on the other.
  simp only [ofMembers, opened, settings, List.forall_mem_cons]
  constructor
  · rintro ⟨_, table, _, root, _, component, _, classes, _, address, built⟩
    obtain rfl := Except.ok.inj built
    exact ⟨table, root, component, classes, address, by simp⟩
  · rintro ⟨table, root, component, classes, address, _⟩
    exact ⟨_, table, _, root, _, component, _, classes, _, address, rfl⟩

/-- The check of the members refuses nothing that could be built. -/
theorem ofJson_object_eq_ok_iff {config : Config} :
    ofJson (.object members) = .ok config ↔ ∀ s ∈ settings, s.IsSet members (s.value config) := by
  rw [← ofMembers_eq_ok_iff distinct, ofJson, Json.readRecord]
  cases checked : Json.checkMembers fields members with
  | ok => rfl
  | error mismatch =>
    -- A member that is refused is that of a setting, and then there is no text to build with.
    have refused : ¬ ∀ member ∈ members, member.1 ∈ settings.map Setting.name →
        ∃ text, member.2 = .string text := by
      rw [← Json.checkMembers_texts_iff, ← fields_eq, checked]
      simp
    refine ⟨fun same => by contradiction, fun built => ?_⟩
    refine absurd (fun member listed known => ?_) refused
    obtain ⟨s, isSetting, same⟩ := List.mem_map.1 known
    have set := (ofMembers_eq_ok_iff distinct).1 built s isSetting
    exact ⟨_, set.given member.2 (same ▸ listed)⟩

end

theorem ofJson_toJson (config : Config) : ofJson config.toJson = .ok config := by
  have names : Table.keys (settings.map fun s => (s.name, Json.string (s.value config))) =
      settings.map Setting.name := rfl
  have distinct : (settings.map Setting.name).Nodup := by decide
  rw [toJson_eq, ofJson_object_eq_ok_iff (names ▸ distinct)]
  intro s isSetting
  constructor
  · intro value listed
    obtain ⟨other, isOther, same⟩ := List.mem_map.1 listed
    simp only [Prod.mk.injEq] at same
    obtain rfl := List.inj_on_of_nodup_map distinct isOther isSetting same.1
    exact same.2.symm
  · intro absent
    exact absurd (List.mem_map_of_mem isSetting) (names ▸ absent)

/-- An object is read as a configuration exactly if its members with the names of settings are
texts. These settings are taken from their members and the others are the defaults; another object
with the same of these members, in any order and among any others, is read alike. A configuration
that has been written is read back. -/
theorem partial_config_overlays_defaults {members : Json.Members}
    (distinct : (Table.keys members).Nodup) :
    ((∃ config, ofJson (.object members) = .ok config) ↔
      ∀ s ∈ settings, ∀ value, (s.name, value) ∈ members → ∃ text, value = .string text) ∧
    (∀ config, ofJson (.object members) = .ok config → ∀ s ∈ settings,
      (∀ value, (s.name, value) ∈ members → value = .string (s.value config)) ∧
      (s.name ∉ Table.keys members → s.value config = s.value {})) ∧
    (∀ others : Json.Members, (Table.keys others).Nodup →
      (∀ s ∈ settings, ∀ value, (s.name, value) ∈ others ↔ (s.name, value) ∈ members) →
      ∀ config, ofJson (.object others) = .ok config ↔ ofJson (.object members) = .ok config) ∧
    ∀ config : Config, ofJson config.toJson = .ok config := by
  refine ⟨?_, ?_, ?_, ofJson_toJson⟩
  · simp only [← exists_isSet_iff distinct, ofJson_object_eq_ok_iff distinct]
    exact ⟨fun ⟨config, set⟩ s isSetting => ⟨_, set s isSetting⟩, exists_config⟩
  · intro config read s isSetting
    have set := (ofJson_object_eq_ok_iff distinct).1 read s isSetting
    exact ⟨set.given, set.left⟩
  · intro others distinct' same config
    rw [ofJson_object_eq_ok_iff distinct, ofJson_object_eq_ok_iff distinct']
    constructor
    · intro set s isSetting
      exact (set s isSetting).congr fun value => (same s isSetting value).symm
    · intro set s isSetting
      exact (set s isSetting).congr (same s isSetting)

/-- The members that come first and last are settings; between them are a name in other capitals and
a member of another kind. -/
theorem address_and_table_given :
    let members : Json.Members := [("placeholderUrl", .string "//x"), ("tailwindclass", .null),
      ("nested", .array [.bool true]), ("sqlTableName", .string "")]
    let config : Config := { sqlTableName := "", placeholderUrl := "//x" }
    (Table.keys members).Nodup ∧ ofJson (.object members) = .ok config ∧
      (∀ s ∈ settings, s.name ∉ Table.keys members → s.value config = s.value {}) ∧
      ofJson config.toJson = .ok config := by
  intro members config
  have distinct : (Table.keys members).Nodup := by decide
  obtain ⟨_, overlays, _, written⟩ := partial_config_overlays_defaults distinct
  have read : ofJson (.object members) = .ok config := by rfl
  exact ⟨distinct, read, fun s isSetting => (overlays config read s isSetting).2, written config⟩

end Config

end Snippet
