import Mathlib.Data.List.Induction

/-!
# Lists without repetitions

A list whose repetitions are taken out is described from its end: the last element is dropped if its
key stands before it, and otherwise it comes last. This is what the facts about class lists, about
the keys of a table and about the member types of an array are derived from.
-/

namespace Snippet

section Keys

variable {α β : Type} [BEq β] [LawfulBEq β] (key : α → β)

theorem eraseDupsBy_concat (list : List α) (last : α) :
    (list ++ [last]).eraseDupsBy (fun a b => key a == key b) =
      if key last ∈ list.map key then list.eraseDupsBy fun a b => key a == key b
      else list.eraseDupsBy (fun a b => key a == key b) ++ [last] := by
  match list with
  | [] => rfl
  | first :: rest =>
    rw [List.cons_append, List.eraseDupsBy_cons, List.eraseDupsBy_cons, List.filter_append]
    by_cases same : key last = key first
    · simp [same]
    · have kept : [last].filter (fun b => (key b == key first) = false) = [last] := by
        simp [same]
      have others : key last ∈ (rest.filter fun b => (key b == key first) = false).map key ↔
          key last ∈ (first :: rest).map key := by
        simp only [List.mem_map, List.mem_filter, List.mem_cons, decide_eq_true_eq]
        grind
      rw [kept, eraseDupsBy_concat]
      simp only [others]
      split
      · rfl
      · rfl
-- The rest is searched without the elements that have the key of the first one.
termination_by list.length
decreasing_by
  have shorter := List.length_filter_le (fun b => (key b == key first) = false) rest
  simp only [List.length_cons]
  omega

theorem eraseDupsBy_append_cons_of_mem {before : List α} {element : α}
    (known : key element ∈ before.map key) (after : List α) :
    (before ++ element :: after).eraseDupsBy (fun a b => key a == key b) =
      (before ++ after).eraseDupsBy fun a b => key a == key b := by
  induction after using List.reverseRecOn with
  | nil => rw [eraseDupsBy_concat, if_pos known, List.append_nil]
  | append_singleton after last ih =>
    have same : key last ∈ (before ++ element :: after).map key ↔
        key last ∈ (before ++ after).map key := by
      simp only [List.map_append, List.map_cons, List.mem_append, List.mem_cons]
      grind
    rw [← List.cons_append, ← List.append_assoc, ← List.append_assoc, eraseDupsBy_concat,
      eraseDupsBy_concat, ih]
    simp only [same]

end Keys

section

variable {α : Type} [BEq α] [LawfulBEq α]

theorem eraseDups_concat (list : List α) (last : α) :
    (list ++ [last]).eraseDups =
      if last ∈ list then list.eraseDups else list.eraseDups ++ [last] := by
  simpa [List.eraseDups] using eraseDupsBy_concat id list last

theorem nodup_eraseDups (list : List α) : list.eraseDups.Nodup := by
  induction list using List.reverseRecOn with
  | nil => exact List.nodup_nil
  | append_singleton list last ih =>
    rw [eraseDups_concat]
    split
    next => exact ih
    next new =>
      rw [List.nodup_append]
      refine ⟨ih, by simp, ?_⟩
      rintro known listed _ added rfl
      obtain rfl := List.mem_singleton.1 added
      exact new (List.mem_eraseDups.1 listed)

theorem eraseDups_filter (keep : α → Bool) (list : List α) :
    (list.filter keep).eraseDups = list.eraseDups.filter keep := by
  induction list using List.reverseRecOn with
  | nil => rfl
  | append_singleton list last ih =>
    rw [eraseDups_concat, List.filter_append]
    by_cases kept : keep last = true
    · rw [List.filter_cons_of_pos kept, List.filter_nil, eraseDups_concat, ih]
      by_cases known : last ∈ list <;> simp [known, kept]
    · rw [List.filter_cons_of_neg kept, List.filter_nil, List.append_nil, ih]
      by_cases known : last ∈ list <;> simp [known, kept]

theorem eraseDups_append_eq_filter (first second : List α) :
    (first ++ second).eraseDups =
      first.eraseDups ++ second.eraseDups.filter (· ∉ first.eraseDups) := by
  rw [List.eraseDups_append, List.removeAll, eraseDups_filter]
  simp

end

end Snippet
