import Snippet.History.Recent

/-!
# Histories that are cut early

What the newest entries of a history are can be found out from its newest entries alone: if a part
of the history is cut to its newest entries before the rest is added, on whichever side, the newest
entries of the whole stay the same (`recent_of_recent`). The entries that are inserted into others
behave like a merge of the two lists, which is where entries of the same time keep their order.
-/

namespace Snippet.History

/-! ## Insertions -/

section Insertion

variable {entry first newer : Entry} {rest : List Entry}

theorem insertByTime_of_lt (newer : entry.createdAt.rank < first.createdAt.rank) :
    insertByTime entry (first :: rest) = first :: insertByTime entry rest := by
  simp [insertByTime, Timestamp.isAfter, newer]

theorem insertByTime_of_le (older : first.createdAt.rank ≤ entry.createdAt.rank) :
    insertByTime entry (first :: rest) = entry :: first :: rest := by
  simp [insertByTime, Timestamp.isAfter, Int.not_lt.2 older]

theorem insertByTime_comm (earlier : entry.createdAt.rank < newer.createdAt.rank)
    (entries : List Entry) :
    insertByTime newer (insertByTime entry entries) =
      insertByTime entry (insertByTime newer entries) := by
  induction entries with
  | nil =>
    rw [insertByTime, insertByTime, insertByTime_of_le (by omega), insertByTime_of_lt earlier,
      insertByTime]
  | cons first rest ih =>
    -- Either both go past the first entry, or the newer one stays before it.
    by_cases passed : newer.createdAt.rank < first.createdAt.rank
    · rw [insertByTime_of_lt (by omega), insertByTime_of_lt passed, insertByTime_of_lt passed,
        insertByTime_of_lt (by omega), ih]
    · have front : insertByTime newer (first :: rest) = newer :: first :: rest :=
        insertByTime_of_le (by omega)
      rw [front, insertByTime_of_lt earlier]
      by_cases between : entry.createdAt.rank < first.createdAt.rank
      · rw [insertByTime_of_lt between, insertByTime_of_le (by omega)]
      · rw [insertByTime_of_le (by omega), insertByTime_of_le (by omega)]

theorem take_insertByTime (entry : Entry) (entries : List Entry) (limit : Nat) :
    (insertByTime entry entries).take limit =
      (insertByTime entry (entries.take limit)).take limit := by
  induction entries generalizing limit with
  | nil => simp
  | cons first rest ih =>
    cases limit with
    | zero => simp
    | succ limit =>
      rw [List.take_succ_cons]
      by_cases passed : entry.createdAt.rank < first.createdAt.rank
      · rw [insertByTime_of_lt passed, insertByTime_of_lt passed, List.take_succ_cons,
          List.take_succ_cons, ih]
      · rw [insertByTime_of_le (by omega), insertByTime_of_le (by omega), List.take_succ_cons,
          List.take_succ_cons]
        cases limit with
        | zero => simp
        | succ limit => simp [List.take_take]

end Insertion

/-! ## Insertions one after another -/

theorem newestFirst_eq_foldr (entries : List Entry) :
    newestFirst entries = entries.foldr insertByTime [] := by
  induction entries with
  | nil => rfl
  | cons entry rest ih => rw [newestFirst, ih, List.foldr_cons]

theorem newestFirst_append (first second : List Entry) :
    newestFirst (first ++ second) = first.foldr insertByTime (newestFirst second) := by
  rw [newestFirst_eq_foldr, newestFirst_eq_foldr, List.foldr_append]

theorem take_foldr_insertByTime (entries sorted : List Entry) (limit : Nat) :
    (entries.foldr insertByTime sorted).take limit =
      (entries.foldr insertByTime (sorted.take limit)).take limit := by
  induction entries with
  | nil => simp [List.take_take]
  | cons entry rest ih =>
    rw [List.foldr_cons, List.foldr_cons, take_insertByTime, ih, ← take_insertByTime]

theorem foldr_insertByTime_insertByTime (entry : Entry) (entries sorted : List Entry) :
    (insertByTime entry entries).foldr insertByTime sorted =
      insertByTime entry (entries.foldr insertByTime sorted) := by
  induction entries with
  | nil => rfl
  | cons first rest ih =>
    by_cases passed : entry.createdAt.rank < first.createdAt.rank
    · rw [insertByTime_of_lt passed, List.foldr_cons, List.foldr_cons, ih, insertByTime_comm passed]
    · rw [insertByTime_of_le (by omega), List.foldr_cons]

theorem foldr_newestFirst (entries sorted : List Entry) :
    (newestFirst entries).foldr insertByTime sorted = entries.foldr insertByTime sorted := by
  induction entries with
  | nil => rfl
  | cons entry rest ih =>
    rw [newestFirst, foldr_insertByTime_insertByTime, ih, List.foldr_cons]

/-! ## Sorted histories -/

/-- Whether no entry of a list comes before a newer one. -/
def IsNewestFirst (entries : List Entry) : Prop :=
  entries.Pairwise fun earlier later => later.createdAt.rank ≤ earlier.createdAt.rank

theorem isNewestFirst_insertByTime (entry : Entry) {entries : List Entry}
    (sorted : IsNewestFirst entries) : IsNewestFirst (insertByTime entry entries) := by
  induction entries with
  | nil => exact List.pairwise_singleton _ _
  | cons first rest ih =>
    obtain ⟨below, inRest⟩ := List.pairwise_cons.1 sorted
    by_cases passed : entry.createdAt.rank < first.createdAt.rank
    · rw [insertByTime_of_lt passed]
      refine List.pairwise_cons.2 ⟨?_, ih inRest⟩
      intro other member
      cases List.mem_cons.1 ((perm_insertByTime entry rest).subset member) with
      | inl same =>
        subst same
        omega
      | inr old => exact below other old
    · rw [insertByTime_of_le (by omega)]
      refine List.pairwise_cons.2 ⟨?_, sorted⟩
      intro other member
      cases List.mem_cons.1 member with
      | inl same =>
        subst same
        omega
      | inr old =>
        have := below other old
        omega

theorem isNewestFirst_newestFirst (entries : List Entry) : IsNewestFirst (newestFirst entries) := by
  induction entries with
  | nil => exact List.Pairwise.nil
  | cons entry rest ih => exact isNewestFirst_insertByTime entry ih

theorem isNewestFirst_recent (entries : List Entry) (limit : Nat) :
    IsNewestFirst (recent entries limit) :=
  (isNewestFirst_newestFirst entries).sublist (List.take_sublist _ _)

theorem newestFirst_of_isNewestFirst {entries : List Entry} (sorted : IsNewestFirst entries) :
    newestFirst entries = entries := by
  induction entries with
  | nil => rfl
  | cons entry rest ih =>
    obtain ⟨below, inRest⟩ := List.pairwise_cons.1 sorted
    rw [newestFirst, ih inRest]
    cases rest with
    | nil => rfl
    | cons first others => exact insertByTime_of_le (below first List.mem_cons_self)

/-! ## Merging -/

theorem perm_foldr_insertByTime (entries rest : List Entry) :
    (entries.foldr insertByTime rest).Perm (entries ++ rest) := by
  induction entries with
  | nil => exact .refl _
  | cons entry others ih => exact (perm_insertByTime entry _).trans (ih.cons entry)

theorem foldr_insertByTime_of_lt {first : Entry} {entries rest : List Entry}
    (older : ∀ entry ∈ entries, entry.createdAt.rank < first.createdAt.rank) :
    entries.foldr insertByTime (first :: rest) = first :: entries.foldr insertByTime rest := by
  induction entries with
  | nil => rfl
  | cons entry others ih =>
    obtain ⟨here, there⟩ := List.forall_mem_cons.1 older
    rw [List.foldr_cons, ih there, insertByTime_of_lt here, List.foldr_cons]

theorem foldr_insertByTime_of_le {entry : Entry} {entries rest : List Entry}
    (sorted : IsNewestFirst (entry :: entries))
    (older : ∀ other ∈ rest, other.createdAt.rank ≤ entry.createdAt.rank) :
    (entry :: entries).foldr insertByTime rest = entry :: entries.foldr insertByTime rest := by
  obtain ⟨below, _⟩ := List.pairwise_cons.1 sorted
  -- What the others are merged to is not newer either, so the entry stops before it.
  have front : ∀ other ∈ entries.foldr insertByTime rest,
      other.createdAt.rank ≤ entry.createdAt.rank := by
    intro other member
    cases List.mem_append.1 ((perm_foldr_insertByTime entries rest).subset member) with
    | inl inEntries => exact below other inEntries
    | inr inRest => exact older other inRest
  rw [List.foldr_cons]
  cases merged : entries.foldr insertByTime rest with
  | nil => rfl
  | cons first others => exact insertByTime_of_le (front first (by simp [merged]))

/-- Of sorted entries only the first ones matter for the first ones of a merge. -/
theorem take_foldr_take {entries rest : List Entry} (sorted : IsNewestFirst entries)
    (sortedRest : IsNewestFirst rest) {limit kept : Nat} (enough : limit ≤ kept) :
    ((entries.take kept).foldr insertByTime rest).take limit =
      (entries.foldr insertByTime rest).take limit := by
  -- By induction on the limit: every step of the merge takes one entry, on both sides the same.
  induction limit generalizing entries rest kept with
  | zero => simp
  | succ limit ih =>
    obtain ⟨kept, rfl⟩ : ∃ fewer, kept = fewer + 1 := ⟨kept - 1, by omega⟩
    cases entries with
    | nil => simp
    | cons entry entries =>
      rw [List.take_succ_cons]
      have sortedKept : IsNewestFirst (entry :: entries.take kept) :=
        sorted.sublist ((List.take_sublist kept entries).cons_cons entry)
      obtain ⟨below, inEntries⟩ := List.pairwise_cons.1 sorted
      by_cases front : ∀ other ∈ rest, other.createdAt.rank ≤ entry.createdAt.rank
      · rw [foldr_insertByTime_of_le sorted front, foldr_insertByTime_of_le sortedKept front,
          List.take_succ_cons, List.take_succ_cons, ih inEntries sortedRest (by omega)]
      · cases rest with
        | nil => exact absurd (List.forall_mem_nil _) front
        | cons first others =>
          obtain ⟨belowFirst, inOthers⟩ := List.pairwise_cons.1 sortedRest
          -- Then the other list has an entry in front that is newer than all of these.
          have newer : entry.createdAt.rank < first.createdAt.rank := by
            refine Int.not_le.1 fun notNewer => front (List.forall_mem_cons.2 ⟨notNewer, ?_⟩)
            exact fun other member => Int.le_trans (belowFirst other member) notNewer
          have older : ∀ other ∈ entry :: entries, other.createdAt.rank < first.createdAt.rank :=
            List.forall_mem_cons.2
              ⟨newer, fun other member => Int.lt_of_le_of_lt (below other member) newer⟩
          have olderKept := fun other member => older other
            (((List.take_sublist kept entries).cons_cons entry).subset member)
          rw [foldr_insertByTime_of_lt older, foldr_insertByTime_of_lt olderKept,
            List.take_succ_cons, List.take_succ_cons]
          exact congrArg (first :: ·)
            (@ih (entry :: entries) others sorted inOthers (kept + 1) (by omega))

/-! ## Histories that are cut -/

theorem recent_recent_append (first second : List Entry) (limit : Nat) :
    recent (recent first limit ++ second) limit = recent (first ++ second) limit := by
  have sorted := isNewestFirst_newestFirst first
  have sortedSecond := isNewestFirst_newestFirst second
  calc
    recent (recent first limit ++ second) limit
      = (((newestFirst first).take limit).foldr insertByTime (newestFirst second)).take limit := by
        rw [recent, newestFirst_append, recent]
    _ = ((newestFirst first).foldr insertByTime (newestFirst second)).take limit :=
        take_foldr_take sorted sortedSecond (Nat.le_refl _)
    _ = recent (first ++ second) limit := by
        rw [foldr_newestFirst, ← newestFirst_append, recent]

theorem recent_append_recent (first second : List Entry) (limit : Nat) :
    recent (first ++ recent second limit) limit = recent (first ++ second) limit := by
  calc
    recent (first ++ recent second limit) limit
      = (first.foldr insertByTime ((newestFirst second).take limit)).take limit := by
        rw [recent, newestFirst_append,
          newestFirst_of_isNewestFirst (isNewestFirst_recent second limit), recent]
    _ = (first.foldr insertByTime (newestFirst second)).take limit :=
        (take_foldr_insertByTime first (newestFirst second) limit).symm
    _ = recent (first ++ second) limit := by
        rw [← newestFirst_append, recent]

/-- Cutting a part of a history to its newest entries, before or after other entries are added,
loses none of the newest entries of the whole, and fewer of the newest entries are the first ones of
more of them. -/
theorem recent_of_recent (xs ys : List Entry) (limit : Nat) :
    recent (recent xs limit ++ ys) limit = recent (xs ++ ys) limit ∧
      recent (ys ++ recent xs limit) limit = recent (ys ++ xs) limit ∧
      ∀ fewer ≤ limit, recent xs fewer = (recent xs limit).take fewer := by
  refine ⟨recent_recent_append xs ys limit, recent_append_recent ys xs limit, ?_⟩
  intro fewer smaller
  rw [recent, recent, List.take_take, Nat.min_eq_left smaller]

/-- Four entries of one day, two of them at the limit, and a newer one that stands in both parts. -/
theorem tie_kept_at_limit :
    let entry (id : Int64) (day : Nat) (valid : isDate 2025 1 day = true) : Entry :=
      { id, createdAt := ⟨⟨2025, 1, day, valid⟩, ⟨0, 0, by decide, by decide, by decide⟩⟩,
        inputText := [], outputText := [], formatType := [], userId := [] }
    let xs := [entry 1 3 rfl, entry 2 5 rfl, entry 3 3 rfl]
    let ys := [entry 4 3 rfl, entry 2 5 rfl, entry 5 3 rfl]
    2 ≤ 3 ∧ recent (recent xs 3 ++ ys) 3 = [entry 2 5 rfl, entry 2 5 rfl, entry 1 3 rfl] ∧
      recent (ys ++ recent xs 3) 3 = [entry 2 5 rfl, entry 2 5 rfl, entry 4 3 rfl] ∧
      recent xs 2 = (recent xs 3).take 2 := by
  intro entry xs ys
  obtain ⟨before, behind, fewer⟩ := recent_of_recent xs ys 3
  refine ⟨by decide, before.trans ?_, behind.trans ?_, fewer 2 (by decide)⟩
  · decide +kernel
  · decide +kernel

end Snippet.History
