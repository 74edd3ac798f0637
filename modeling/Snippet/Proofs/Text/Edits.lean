import Mathlib.Data.List.Infix
import Snippet.Text.Basic

/-!
# Edits at places of a text

An edit takes away a stretch of a text and puts another text there. Its place is the number of
characters before the stretch, so edits that are made together are all placed in the original text.
Where stretches overlap the first edit of a list is made.
-/

namespace Snippet.Text

/-- The place of an edit, how many characters it takes away, and the text that it puts there. -/
structure Edit where
  start : Nat
  removed : Nat
  written : Text

namespace Edit

def covers (e : Edit) (place : Nat) : Bool :=
  e.start ≤ place && place < e.start + e.removed

def piece (edits : List Edit) (place : Nat) (c : Char) : Text :=
  match edits.find? (·.covers place) with
  | none => [c]
  | some e => if e.start = place then e.written else []

/-- A text with edits made in it together; its first character has a given place. -/
def applyAll (edits : List Edit) (place : Nat) : Text → Text
  | [] => []
  | c :: rest => piece edits place c ++ applyAll edits (place + 1) rest

variable {edits before behind : List Edit} {e : Edit} {place : Nat}

theorem covers_iff : e.covers place = true ↔ e.start ≤ place ∧ place < e.start + e.removed := by
  rw [covers, Bool.and_eq_true, decide_eq_true_eq, decide_eq_true_eq]

theorem covers_of_lt (later : place < e.start) : e.covers place = false := by
  rw [← Bool.not_eq_true, covers_iff]
  omega

theorem applyAll_append (edits : List Edit) (place : Nat) (s t : Text) :
    applyAll edits place (s ++ t) =
      applyAll edits place s ++ applyAll edits (place + s.length) t := by
  induction s generalizing place with
  | nil => rfl
  | cons c rest ih =>
    have next : place + 1 + rest.length = place + (rest.length + 1) := by omega
    rw [List.cons_append, applyAll, applyAll, ih, List.length_cons, next, List.append_assoc]

theorem mem_of_mem_applyAll {mark : Char} (absent : ∀ e ∈ edits, mark ∉ e.written) {t : Text}
    (member : mark ∈ applyAll edits place t) : mark ∈ t := by
  induction t generalizing place with
  | nil => exact member
  | cons c rest ih =>
    rw [applyAll, List.mem_append, piece] at member
    refine List.mem_cons.2 (member.imp (fun inside => ?_) ih)
    cases found : edits.find? (·.covers place) with
    | none => simpa [found] using inside
    | some e =>
      rw [found] at inside
      dsimp only at inside
      split at inside
      · exact absurd inside (absent e (List.mem_of_find?_eq_some found))
      · contradiction

theorem applyAll_cons (uncovered : ∀ e ∈ edits, e.covers place = false) (c : Char) (rest : Text) :
    applyAll edits place (c :: rest) = c :: applyAll edits (place + 1) rest := by
  have nothing : edits.find? (·.covers place) = none := by
    rw [List.find?_eq_none]
    intro e listed
    simp [uncovered e listed]
  rw [applyAll, piece, nothing, List.singleton_append]

theorem applyAll_of_ended (ended : e.start + e.removed ≤ place) (t : Text) :
    applyAll (before ++ e :: behind) place t = applyAll (before ++ behind) place t := by
  induction t generalizing place with
  | nil => rfl
  | cons c rest ih =>
    have uncovered : e.covers place = false := by
      rw [← Bool.not_eq_true, covers_iff]
      omega
    -- An edit that has ended covers no later place, so it is never the first one.
    have same : (before ++ e :: behind).find? (·.covers place) =
        (before ++ behind).find? (·.covers place) := by
      simp [List.find?_append, uncovered]
    rw [applyAll, applyAll, ih (by omega), piece, piece, same]

section Stretch

variable (later : ∀ other ∈ before, e.start + e.removed ≤ other.start)

include later

theorem find?_of_covers (covered : e.covers place = true) :
    (before ++ e :: behind).find? (·.covers place) = some e := by
  -- The edits listed before start behind the stretch, so none of them takes the place first.
  have others : before.find? (·.covers place) = none := by
    rw [List.find?_eq_none]
    intro other listed
    have startsLater := later other listed
    rw [covers_iff] at covered ⊢
    omega
  simp [List.find?_append, others, covered]

theorem applyAll_inside {t : Text} (started : e.start < place)
    (inside : place + t.length ≤ e.start + e.removed) :
    applyAll (before ++ e :: behind) place t = [] := by
  induction t generalizing place with
  | nil => rfl
  | cons c rest ih =>
    rw [List.length_cons] at inside
    have covered : e.covers place = true := by
      rw [covers_iff]
      omega
    rw [applyAll, piece, find?_of_covers later covered, ih (by omega) (by omega), List.append_nil]
    exact if_neg (by omega)

theorem applyAll_stretch {stretch : Text} (filled : stretch ≠ [])
    (removed : stretch.length = e.removed) (t : Text) :
    applyAll (before ++ e :: behind) e.start (stretch ++ t) =
      e.written ++ applyAll (before ++ behind) (e.start + stretch.length) t := by
  cases stretch with
  | nil => contradiction
  | cons c rest =>
    rw [List.length_cons] at removed
    have covered : e.covers e.start = true := by
      rw [covers_iff]
      omega
    -- The text is written at the first character, and the others are taken away.
    rw [applyAll_append, applyAll, piece, find?_of_covers later covered,
      applyAll_inside later (by omega) (by omega), applyAll_of_ended (by rw [List.length_cons]; omega)]
    simp

end Stretch

end Edit

/-! ## First places -/

section FirstPlaces

variable {α : Type} {find : Text → Option α} {place : Nat} {c : Char} {rest : Text} {found : α}

/-- The first place of a text at which something is found, with what is found there; the first
character of the text has a given place. -/
def firstPlace? (find : Text → Option α) (place : Nat) (t : Text) : Option (Nat × α) :=
  (t.tails.zipIdx place).findSome? fun tail => (find tail.1).map fun found => (tail.2, found)

theorem firstPlace?_of_some (here : find (c :: rest) = some found) :
    firstPlace? find place (c :: rest) = some (place, found) := by
  simp [firstPlace?, here]

theorem firstPlace?_of_none (missing : find (c :: rest) = none) :
    firstPlace? find place (c :: rest) = firstPlace? find (place + 1) rest := by
  simp [firstPlace?, missing]

theorem le_of_firstPlace? {t : Text} {n : Nat} (first : firstPlace? find place t = some (n, found)) :
    place ≤ n := by
  obtain ⟨tail, listed, same⟩ := List.exists_of_findSome?_eq_some first
  obtain ⟨_, _, rfl, rfl⟩ := Option.map_eq_some_iff.1 same
  exact (List.mem_zipIdx listed).1

theorem firstPlace?_append {stretch behind : Text}
    (missing : ∀ c ∈ stretch, ∀ t, find (c :: t) = none) :
    firstPlace? find place (stretch ++ behind) = firstPlace? find (place + stretch.length) behind := by
  induction stretch generalizing place with
  | nil => rfl
  | cons c rest ih =>
    have next : place + 1 + rest.length = place + (rest.length + 1) := by omega
    rw [List.cons_append, firstPlace?_of_none (missing c List.mem_cons_self _),
      ih fun d member => missing d (List.mem_cons_of_mem c member), List.length_cons, next]

end FirstPlaces

end Snippet.Text
