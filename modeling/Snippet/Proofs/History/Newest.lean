import Mathlib.Data.List.FinRange
import Snippet.Proofs.History.Truncation

/-!
# The newest entries of a history

Which entries of a history are its newest ones, said by the places at which they stand
(`NewestPlaces`): the places are all different, as many as the limit allows, and an entry that is
shown precedes every entry that is shown behind it or not at all, because it is newer or because it
is as new and stands before it. To see this, the insertions are taken for the stable sort of the
library, and the places are sorted in the same way as the entries.

If no two entries have the same time, it makes no difference in which order the history has them.
-/

namespace Snippet.History

/-! ## Times -/

theorem Date.month_le (d : Date) : d.month ≤ 12 := by
  have valid := d.valid
  simp only [isDate, Bool.and_eq_true, decide_eq_true_eq] at valid
  omega

theorem Date.day_le (d : Date) : d.day ≤ 31 := by
  have valid := d.valid
  simp only [isDate, Bool.and_eq_true, decide_eq_true_eq] at valid
  have longest : daysInMonth d.year d.month ≤ 31 := by
    unfold daysInMonth
    split
    · split <;> omega
    · split <;> omega
  omega

theorem Timestamp.rank_injective : Function.Injective Timestamp.rank := by
  rintro ⟨date, clock⟩ ⟨date', clock'⟩ same
  have month := date.month_le
  have month' := date'.month_le
  have day := date.day_le
  have day' := date'.day_le
  have second := clock.second_lt
  have second' := clock'.second_lt
  have nano := clock.nano_lt
  have nano' := clock'.nano_lt
  cases date
  cases date'
  cases clock
  cases clock'
  -- No part reaches the base of its place, so the parts can be read off like digits.
  simp only [rank] at *
  simp only [Timestamp.mk.injEq, Date.mk.injEq, Clock.mk.injEq]
  omega

/-! ## The stable sort -/

/-- Whether an entry may come before another one: it is not the older one. -/
def Entry.notOlder (e f : Entry) : Bool :=
  f.createdAt.rank ≤ e.createdAt.rank

namespace Entry

variable {e f g : Entry}

theorem notOlder_iff : e.notOlder f = true ↔ f.createdAt.rank ≤ e.createdAt.rank :=
  decide_eq_true_iff

theorem notOlder_trans (e f g : Entry) (first : e.notOlder f = true) (second : f.notOlder g = true) :
    e.notOlder g = true := by
  rw [notOlder_iff] at *
  omega

theorem notOlder_total (e f : Entry) : (e.notOlder f || f.notOlder e) = true := by
  rw [Bool.or_eq_true, notOlder_iff, notOlder_iff]
  omega

end Entry

/-- An entry is inserted behind those that are newer and before those that are not. -/
theorem insertByTime_append {entry : Entry} {newer others : List Entry}
    (before : ∀ e ∈ newer, entry.createdAt.rank < e.createdAt.rank)
    (behind : ∀ e ∈ others, e.createdAt.rank ≤ entry.createdAt.rank) :
    insertByTime entry (newer ++ others) = newer ++ entry :: others := by
  induction newer with
  | nil =>
    cases others with
    | nil => rfl
    | cons first rest => exact insertByTime_of_le (behind first List.mem_cons_self)
  | cons first rest ih =>
    obtain ⟨here, there⟩ := List.forall_mem_cons.1 before
    rw [List.cons_append, insertByTime_of_lt here, ih there, List.cons_append]

theorem newestFirst_eq_mergeSort (entries : List Entry) :
    newestFirst entries = entries.mergeSort Entry.notOlder := by
  induction entries with
  | nil => simp [newestFirst]
  | cons entry rest ih =>
    obtain ⟨newer, others, whole, part, before⟩ :=
      List.mergeSort_cons Entry.notOlder_trans Entry.notOlder_total entry rest
    have sorted := List.pairwise_mergeSort Entry.notOlder_trans Entry.notOlder_total (entry :: rest)
    rw [whole, List.pairwise_append, List.pairwise_cons] at sorted
    rw [newestFirst, ih, part, whole]
    -- The stable sort has the entry behind those that are strictly newer and before the others.
    apply insertByTime_append
    · intro e listed
      have strict := before e listed
      rw [Bool.not_eq_true', ← Bool.not_eq_true, Entry.notOlder_iff] at strict
      omega
    · intro e listed
      exact Entry.notOlder_iff.1 (sorted.2.1.1 e listed)

/-! ## Places -/

section Places

variable (entries : List Entry)

/-- Whether the entry at one place is shown before the one at another place: it is newer, or it is
as new and the history has it first. -/
def Precedes (p q : Fin entries.length) : Prop :=
  entries[q].createdAt.rank < entries[p].createdAt.rank ∨
    entries[q].createdAt.rank = entries[p].createdAt.rank ∧ p < q

def numbered (place : Fin entries.length) : Entry × Nat :=
  (entries[place], place)

theorem map_numbered : (List.finRange entries.length).map (numbered entries) = entries.zipIdx := by
  apply List.ext_getElem
  · simp
  · simp [numbered]

/-- The places of a history in the order in which its entries are shown. -/
def placesNewestFirst : List (Fin entries.length) :=
  (List.finRange entries.length).mergeSort fun p q =>
    List.zipIdxLE Entry.notOlder (numbered entries p) (numbered entries q)

theorem map_placesNewestFirst :
    (placesNewestFirst entries).map (fun place => entries[place]) = newestFirst entries := by
  have sorted : (placesNewestFirst entries).map (numbered entries) =
      entries.zipIdx.mergeSort (List.zipIdxLE Entry.notOlder) := by
    rw [← map_numbered]
    exact List.map_mergeSort fun _ _ _ _ => rfl
  rw [newestFirst_eq_mergeSort, ← List.mergeSort_zipIdx, ← sorted, List.map_map]
  rfl

theorem perm_placesNewestFirst :
    (placesNewestFirst entries).Perm (List.finRange entries.length) :=
  List.mergeSort_perm _ _

theorem nodup_placesNewestFirst : (placesNewestFirst entries).Nodup :=
  (perm_placesNewestFirst entries).nodup_iff.2 (List.nodup_finRange _)

theorem mem_placesNewestFirst (place : Fin entries.length) : place ∈ placesNewestFirst entries :=
  (perm_placesNewestFirst entries).mem_iff.2 (List.mem_finRange place)

variable {entries} in
theorem precedes_or_eq_of_zipIdxLE {p q : Fin entries.length}
    (inOrder : List.zipIdxLE Entry.notOlder (numbered entries p) (numbered entries q) = true) :
    Precedes entries p q ∨ p = q := by
  simp only [List.zipIdxLE, numbered, Entry.notOlder_iff] at inOrder
  simp only [Precedes]
  split at inOrder
  next newer =>
    split at inOrder
    next older =>
      have placed : p ≤ q := of_decide_eq_true inOrder
      omega
    next => omega
  next => contradiction

theorem pairwise_placesNewestFirst :
    (placesNewestFirst entries).Pairwise (Precedes entries) := by
  have trans := fun p q r : Fin entries.length =>
    List.zipIdxLE_trans Entry.notOlder_trans (numbered entries p) (numbered entries q)
      (numbered entries r)
  have total := fun p q : Fin entries.length =>
    List.zipIdxLE_total Entry.notOlder_total (numbered entries p) (numbered entries q)
  have sorted := List.pairwise_mergeSort trans total (List.finRange entries.length)
  refine (sorted.and (nodup_placesNewestFirst entries)).imp ?_
  intro p q both
  exact (precedes_or_eq_of_zipIdxLE both.1).resolve_right both.2

end Places

/-! ## The newest entries -/

/-- The places of the newest entries of a history, as many as a limit allows, in the order in which
the entries are shown. -/
structure NewestPlaces (entries : List Entry) (limit : Nat) (places : List (Fin entries.length)) :
    Prop where
  length : places.length = min limit entries.length
  distinct : places.Nodup
  newestFirst : places.Pairwise fun p q =>
    entries[q].createdAt.rank ≤ entries[p].createdAt.rank
  tiesInOrder : places.Pairwise fun p q =>
    entries[p].createdAt = entries[q].createdAt → p < q
  noneNewerOmitted : ∀ p ∈ places, ∀ q ∉ places,
    entries[q].createdAt.rank ≤ entries[p].createdAt.rank
  tiesOmittedLater : ∀ p ∈ places, ∀ q ∉ places,
    entries[p].createdAt = entries[q].createdAt → p < q

section Precedes

variable {entries : List Entry} {p q : Fin entries.length}

theorem Precedes.le (precedes : Precedes entries p q) :
    entries[q].createdAt.rank ≤ entries[p].createdAt.rank := by
  simp only [Precedes] at precedes
  omega

theorem Precedes.lt_of_eq (precedes : Precedes entries p q)
    (tie : entries[p].createdAt = entries[q].createdAt) : p < q := by
  rw [Precedes, tie] at precedes
  omega

end Precedes

theorem newestPlaces_take (entries : List Entry) (limit : Nat) :
    NewestPlaces entries limit ((placesNewestFirst entries).take limit) := by
  have whole := pairwise_placesNewestFirst entries
  rw [← List.take_append_drop limit (placesNewestFirst entries), List.pairwise_append] at whole
  obtain ⟨shown, _, across⟩ := whole
  have omitted : ∀ p ∈ (placesNewestFirst entries).take limit,
      ∀ q ∉ (placesNewestFirst entries).take limit, Precedes entries p q := by
    intro p listed q missing
    have inWhole := mem_placesNewestFirst entries q
    rw [← List.take_append_drop limit (placesNewestFirst entries), List.mem_append] at inWhole
    -- A place that is not shown is behind the limit.
    exact across p listed q (inWhole.resolve_left missing)
  exact
    { length := by
        rw [List.length_take, (perm_placesNewestFirst entries).length_eq, List.length_finRange]
      distinct := (nodup_placesNewestFirst entries).sublist (List.take_sublist _ _)
      newestFirst := shown.imp Precedes.le
      tiesInOrder := shown.imp Precedes.lt_of_eq
      noneNewerOmitted := fun p listed q missing => (omitted p listed q missing).le
      tiesOmittedLater := fun p listed q missing => (omitted p listed q missing).lt_of_eq }

/-- Without ties the order of a history does not matter. -/
theorem newestFirst_eq_of_perm {entries entries' : List Entry} (reordered : entries'.Perm entries)
    (distinct : (entries.map Entry.createdAt).Nodup) :
    newestFirst entries' = newestFirst entries := by
  have same : (newestFirst entries').Perm (newestFirst entries) :=
    (perm_newestFirst entries').trans (reordered.trans (perm_newestFirst entries).symm)
  apply same.eq_of_pairwise ?_ (isNewestFirst_newestFirst entries')
    (isNewestFirst_newestFirst entries)
  -- Only entries of one time may stand in either order, and no two different ones have one.
  intro e f listed listed' notNewer notOlder
  have tie : e.createdAt = f.createdAt :=
    Timestamp.rank_injective (Int.le_antisymm notOlder notNewer)
  have inEntries := reordered.subset ((perm_newestFirst entries').subset listed)
  have inEntries' := (perm_newestFirst entries).subset listed'
  exact List.inj_on_of_nodup_map distinct inEntries inEntries' tie

/-- What is shown of a history are its newest entries, each from a place of its own, from the newest
to the oldest; of entries of one time the first ones are shown, in their order. If no two entries
have the same time, every order of the history shows the same. -/
theorem recent_newest (entries : List Entry) (limit : Nat) :
    (∃ places, NewestPlaces entries limit places ∧
      recent entries limit = places.map fun place => entries[place]) ∧
    ((entries.map Entry.createdAt).Nodup →
      ∀ entries', entries'.Perm entries → recent entries' limit = recent entries limit) := by
  constructor
  · refine ⟨_, newestPlaces_take entries limit, ?_⟩
    rw [recent, ← map_placesNewestFirst, List.map_take]
  · intro distinct entries' reordered
    rw [recent, recent, newestFirst_eq_of_perm reordered distinct]

/-- Of two entries of one day the limit cuts off the one that the history has later. A history of
three different days may be turned around. -/
theorem tie_cut_off_and_days_turned :
    let entry (id : Int64) (day : Nat) (valid : isDate 2025 1 day = true) : Entry :=
      { id, createdAt := ⟨⟨2025, 1, day, valid⟩, ⟨0, 0, by decide, by decide, by decide⟩⟩,
        inputText := [], outputText := [], formatType := [], userId := [] }
    let tied := [entry 1 3 rfl, entry 2 5 rfl, entry 3 3 rfl]
    let days := [entry 1 3 rfl, entry 2 5 rfl, entry 3 4 rfl]
    (∃ places, NewestPlaces tied 2 places ∧
      [entry 2 5 rfl, entry 1 3 rfl] = places.map fun place => tied[place]) ∧
    (days.map Entry.createdAt).Nodup ∧ days.reverse.Perm days ∧
      recent days.reverse 2 = [entry 2 5 rfl, entry 3 4 rfl] := by
  intro entry tied days
  have shown : recent tied 2 = [entry 2 5 rfl, entry 1 3 rfl] := by decide +kernel
  have newest : recent days 2 = [entry 2 5 rfl, entry 3 4 rfl] := by decide +kernel
  have distinct : (days.map Entry.createdAt).Nodup := by decide +kernel
  have turned : days.reverse.Perm days := List.reverse_perm days
  refine ⟨?_, distinct, turned, ?_⟩
  · rw [← shown]
    exact (recent_newest tied 2).1
  · rw [← newest]
    exact (recent_newest days 2).2 distinct days.reverse turned

end Snippet.History
