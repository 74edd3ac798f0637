import Snippet.Text.Basic

/-!
# Ordered tables

A table from texts to values that remembers the order in which its keys first came. Writing a key
again keeps its place and replaces its value.

`get?_insert` and `keys_insert` say what an insertion does to the values and to the order of the
keys, `mem_of_get?_eq_some` and `get?_eq_none_iff` what a table has that answers and one that does
not.
-/

namespace Snippet

/-- A table: its keys in the order in which they first came, each with its value. -/
abbrev Table (α : Type) := List (Text × α)

namespace Table

variable {α : Type}

def keys (t : Table α) : List Text :=
  t.map Prod.fst

def get? (key : Text) : Table α → Option α
  | [] => none
  | entry :: rest => if entry.1 = key then some entry.2 else get? key rest

/-- A table with a value written under a key. -/
def insert (key : Text) (value : α) : Table α → Table α
  | [] => [(key, value)]
  | entry :: rest =>
    if entry.1 = key then (key, value) :: rest else entry :: insert key value rest

def ofEntries (entries : List (Text × α)) : Table α :=
  entries.foldl (fun table entry => insert entry.1 entry.2 table) []

theorem mem_of_get?_eq_some {key : Text} {value : α} {t : Table α}
    (found : get? key t = some value) : (key, value) ∈ t := by
  induction t with
  | nil => simp [get?] at found
  | cons entry rest ih =>
    simp only [get?] at found
    split at found
    next same =>
      obtain rfl := Option.some.inj found
      simp [← same]
    next => exact List.mem_cons_of_mem entry (ih found)

theorem get?_eq_none_iff {key : Text} {t : Table α} : get? key t = none ↔ key ∉ keys t := by
  induction t with
  | nil => simp [get?, keys]
  | cons entry rest ih =>
    simp only [keys] at ih
    by_cases same : entry.1 = key
    · simp [get?, keys, same]
    · simp [get?, keys, same, Ne.symm same, ih]

theorem get?_insert (key other : Text) (value : α) (t : Table α) :
    get? other (insert key value t) = if key = other then some value else get? other t := by
  induction t with
  | nil => simp [insert, get?]
  | cons entry rest ih =>
    by_cases found : entry.1 = key
    · by_cases same : key = other <;> simp [insert, get?, found, same]
    · by_cases same : entry.1 = other
      · have different : key ≠ other := fun h => found (same.trans h.symm)
        simp [insert, get?, same, different, Ne.symm different]
      · simp [insert, get?, found, same, ih]

theorem keys_insert (key : Text) (value : α) (t : Table α) :
    keys (insert key value t) = if key ∈ keys t then keys t else keys t ++ [key] := by
  induction t with
  | nil => simp [insert, keys]
  | cons entry rest ih =>
    by_cases found : entry.1 = key
    · simp [insert, keys, found]
    · simp only [keys] at ih
      by_cases known : key ∈ rest.map Prod.fst <;>
        simp_all [insert, keys, Ne.symm found]

end Table

end Snippet
