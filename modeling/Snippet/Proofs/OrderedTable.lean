import Snippet.Proofs.Distinct
import Snippet.Table

/-!
# Tables written entry by entry

What becomes of entries that are written into a table one after another: every key stands once, where
it first came, with the value that came last. This determines the table.
-/

namespace Snippet

namespace Table

variable {α : Type}

theorem ofEntries_concat (entries : List (Text × α)) (entry : Text × α) :
    ofEntries (entries ++ [entry]) = insert entry.1 entry.2 (ofEntries entries) := by
  simp [ofEntries]

theorem keys_ofEntries (entries : List (Text × α)) :
    keys (ofEntries entries) = (entries.map Prod.fst).eraseDups := by
  induction entries using List.reverseRecOn with
  | nil => rfl
  | append_singleton entries entry ih =>
    rw [ofEntries_concat, keys_insert, ih, List.map_append, List.map_singleton, eraseDups_concat]
    simp only [List.mem_eraseDups]

theorem get?_ofEntries (key : Text) (entries : List (Text × α)) :
    get? key (ofEntries entries) = entries.reverse.lookup key := by
  induction entries using List.reverseRecOn with
  | nil => rfl
  | append_singleton entries entry ih =>
    rw [ofEntries_concat, get?_insert, ih, List.reverse_concat, List.lookup_cons]
    by_cases same : entry.1 = key
    · simp [same]
    · have other : (key == entry.1) = false := by simpa using Ne.symm same
      rw [if_neg same, other]

theorem nodup_keys_ofEntries (entries : List (Text × α)) : (keys (ofEntries entries)).Nodup := by
  rw [keys_ofEntries]
  exact nodup_eraseDups _

theorem get?_eq_some_of_mem {t : Table α} (distinct : (keys t).Nodup) {entry : Text × α}
    (listed : entry ∈ t) : get? entry.1 t = some entry.2 := by
  induction t with
  | nil => simp at listed
  | cons first rest ih =>
    rw [keys, List.map_cons, List.nodup_cons] at distinct
    rw [get?]
    cases List.mem_cons.1 listed with
    | inl same => rw [if_pos (by rw [same]), same]
    | inr later =>
      have other : first.1 ≠ entry.1 := by
        intro same
        exact distinct.1 (same ▸ List.mem_map_of_mem later)
      rw [if_neg other]
      exact ih distinct.2 later

/-! ## First places and last values -/

theorem lookup_reverse_eq_some_iff {written : List (Text × α)} {key : Text} {value : α} :
    written.reverse.lookup key = some value ↔
      ∃ before after, written = before ++ (key, value) :: after ∧ key ∉ after.map Prod.fst := by
  rw [List.lookup_eq_some_iff]
  constructor
  · rintro ⟨after, before, reversed, others⟩
    -- What the reversed list has before its first match was written after the last one.
    refine ⟨before.reverse, after.reverse, ?_, ?_⟩
    · rw [← List.reverse_reverse written, reversed]
      simp
    · intro listed
      obtain ⟨entry, inAfter, same⟩ := List.mem_map.1 listed
      simpa [same] using others entry (List.mem_reverse.1 inAfter)
  · rintro ⟨before, after, rfl, absent⟩
    refine ⟨after.reverse, before.reverse, by simp, ?_⟩
    intro entry inAfter
    have other : key ≠ entry.1 := by
      rintro rfl
      exact absent (List.mem_map_of_mem (List.mem_reverse.1 inAfter))
    simpa using other

/-- Whether a table is what entries make that are written one after another: it has the keys in the
order in which they first come, and under every key the value that is written for it last. -/
structure IsMadeOf (t : Table α) (written : List (Text × α)) : Prop where
  firstPlaces : keys t = (written.map Prod.fst).eraseDups
  lastValues : ∀ entry ∈ t, ∃ before after, written = before ++ entry :: after ∧
    entry.1 ∉ after.map Prod.fst

theorem isMadeOf_ofEntries (written : List (Text × α)) : IsMadeOf (ofEntries written) written where
  firstPlaces := keys_ofEntries written
  lastValues := by
    intro entry listed
    have answer := get?_eq_some_of_mem (nodup_keys_ofEntries written) listed
    rw [get?_ofEntries] at answer
    exact lookup_reverse_eq_some_iff.1 answer

theorem eq_filterMap_keys {t : Table α} {value : Text → Option α}
    (answers : ∀ entry ∈ t, value entry.1 = some entry.2) :
    t = (keys t).filterMap fun key => (value key).map (key, ·) := by
  induction t with
  | nil => rfl
  | cons entry rest ih =>
    obtain ⟨here, there⟩ := List.forall_mem_cons.1 answers
    rw [keys] at ih ⊢
    rw [List.map_cons, List.filterMap_cons, here, Option.map_some, ← ih there]

theorem isMadeOf_iff {t : Table α} {written : List (Text × α)} :
    IsMadeOf t written ↔ t = ofEntries written := by
  constructor
  · intro made
    have known {t : Table α} (made : IsMadeOf t written) :
        t = (keys t).filterMap fun key => (written.reverse.lookup key).map (key, ·) :=
      eq_filterMap_keys fun entry listed =>
        lookup_reverse_eq_some_iff.2 (made.lastValues entry listed)
    -- Both tables are what the written entries answer for one list of keys.
    rw [known made, known (isMadeOf_ofEntries written), made.firstPlaces, keys_ofEntries]
  · rintro rfl
    exact isMadeOf_ofEntries written

theorem IsMadeOf.existsUnique {t : Table α} {written : List (Text × α)} (made : IsMadeOf t written)
    {entry : Text × α} (listed : entry ∈ written) : ∃! value, (entry.1, value) ∈ t := by
  have known : entry.1 ∈ keys t := by
    rw [made.firstPlaces, List.mem_eraseDups]
    exact List.mem_map_of_mem listed
  obtain ⟨⟨key, value⟩, inTable, rfl⟩ := List.mem_map.1 known
  refine ⟨value, inTable, ?_⟩
  intro other alsoInTable
  obtain rfl := isMadeOf_iff.1 made
  have distinct := nodup_keys_ofEntries written
  -- The key is looked up once, so the table has one value for it.
  have answer := get?_eq_some_of_mem distinct inTable
  rw [get?_eq_some_of_mem distinct alsoInTable, Option.some.injEq] at answer
  exact answer

theorem mem_of_mem_ofEntries {written : List (Text × α)} {entry : Text × α}
    (listed : entry ∈ ofEntries written) : entry ∈ written := by
  obtain ⟨before, after, rfl, _⟩ := (isMadeOf_ofEntries written).lastValues entry listed
  simp

theorem ofEntries_eq_nil_iff {written : List (Text × α)} : ofEntries written = [] ↔ written = [] := by
  constructor
  · intro empty
    have keys := keys_ofEntries written
    rw [empty] at keys
    cases written with
    | nil => rfl
    | cons entry rest => simp [Table.keys, List.eraseDups_cons] at keys
  · rintro rfl
    rfl

/-! ## Other names for the keys -/

section

variable {β : Type} {rename : Text → Text} (distinct : Function.Injective rename) (change : α → β)

include distinct in
theorem insert_map (key : Text) (value : α) (t : Table α) :
    insert (rename key) (change value) (t.map (Prod.map rename change)) =
      (insert key value t).map (Prod.map rename change) := by
  induction t with
  | nil => rfl
  | cons entry rest ih =>
    by_cases found : entry.1 = key
    · simp [insert, found]
    · have other : rename entry.1 ≠ rename key := distinct.ne found
      simp [insert, found, other, ih]

include distinct in
/-- If different keys get different names, it does not matter whether they are renamed before they are
written or afterwards. -/
theorem ofEntries_map (written : List (Text × α)) :
    ofEntries (written.map (Prod.map rename change)) =
      (ofEntries written).map (Prod.map rename change) := by
  induction written using List.reverseRecOn with
  | nil => rfl
  | append_singleton written entry ih =>
    rw [List.map_append, List.map_singleton, ofEntries_concat, ofEntries_concat, ih]
    exact insert_map distinct change entry.1 entry.2 (ofEntries written)

end

end Table

end Snippet
