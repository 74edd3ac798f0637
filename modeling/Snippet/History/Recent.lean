import Snippet.History.Entry

/-!
# The newest entries

The entries of a history from the newest to the oldest, as many as asked for. Entries of the same
time keep the order in which the history has them.

`perm_newestFirst` says that sorting loses and invents nothing.
-/

namespace Snippet.History

def defaultLimit : Nat := 15

/-- A list of entries with one more, placed behind those that are newer. -/
def insertByTime (entry : Entry) : List Entry → List Entry
  | [] => [entry]
  | first :: rest =>
    -- The entries are inserted from the last to the first, so one of the same time goes in front.
    if first.createdAt.isAfter entry.createdAt then first :: insertByTime entry rest
    else entry :: first :: rest

def newestFirst : List Entry → List Entry
  | [] => []
  | entry :: rest => insertByTime entry (newestFirst rest)

def recent (entries : List Entry) (limit : Nat) : List Entry :=
  (newestFirst entries).take limit

theorem perm_insertByTime (entry : Entry) (entries : List Entry) :
    (insertByTime entry entries).Perm (entry :: entries) := by
  induction entries with
  | nil => simp [insertByTime]
  | cons first rest ih =>
    simp only [insertByTime]
    split
    · exact (ih.cons first).trans (.swap entry first rest)
    · exact .refl _

theorem perm_newestFirst (entries : List Entry) : (newestFirst entries).Perm entries := by
  induction entries with
  | nil => simp [newestFirst]
  | cons entry rest ih =>
    exact (perm_insertByTime entry (newestFirst rest)).trans (ih.cons entry)

end Snippet.History
