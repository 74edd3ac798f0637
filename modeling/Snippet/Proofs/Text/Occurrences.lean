import Snippet.Proofs.Text.FirstMatch

/-!
# Where a text occurs

An occurrence of a text in a longer one lies on one side of every character that the text does not
have, and on one side of every stretch that it cannot overlap. So a replacement of a stretch neither
takes away nor brings in an occurrence of a text that overlaps neither the stretch nor what is
written in its place.

What is put behind the first occurrence of a text can be taken away again, because the occurrence is
the first one of the longer text as well.
-/

namespace Snippet.Text

variable {needle : Text}

/-! ## Separators -/

section Separators

variable {separator : Char}

theorem not_infix_of_notMem {c : Char} {t : Text} (present : c ∈ needle) (absent : c ∉ t) :
    ¬ needle <:+: t :=
  fun inside => absent (inside.subset present)

theorem infix_append_cons_iff (absent : separator ∉ needle) (s t : Text) :
    needle <:+: s ++ separator :: t ↔ needle <:+: s ∨ needle <:+: t := by
  constructor
  · intro inside
    cases List.infix_append_iff_ne_nil.1 inside with
    | inl before => exact Or.inl before
    | inr behind =>
      rcases behind with later | ⟨first, second, _, filled, rfl, _, start⟩
      · cases List.infix_cons_iff.1 later with
        | inl start =>
          cases needle with
          | nil => exact Or.inl List.nil_infix
          | cons c others =>
            obtain ⟨rfl, _⟩ := List.cons_prefix_cons.1 start
            exact absurd List.mem_cons_self absent
        | inr inRest => exact Or.inr inRest
      · -- Across the separator the text would have to have it.
        obtain ⟨c, others, rfl⟩ := List.exists_cons_of_ne_nil filled
        obtain ⟨rfl, _⟩ := List.cons_prefix_cons.1 start
        simp at absent
  · rintro (before | behind)
    · exact before.trans List.infix_append_left
    · exact behind.trans ((List.suffix_cons separator t).isInfix.trans List.infix_append_right)

theorem infix_join_iff (filled : needle ≠ []) (absent : separator ∉ needle) {parts : List Text} :
    needle <:+: join [separator] parts ↔ ∃ part ∈ parts, needle <:+: part := by
  induction parts with
  | nil => simp [join, filled]
  | cons part rest ih =>
    cases rest with
    | nil => simp [join]
    | cons next others =>
      rw [join] at ih ⊢
      rw [List.intercalate_cons_cons, List.append_assoc, List.singleton_append,
        infix_append_cons_iff absent, ih]
      simp

theorem exists_infix_split_iff (filled : needle ≠ []) (absent : separator ∉ needle) {t : Text} :
    (∃ piece ∈ split (· == separator) t, needle <:+: piece) ↔ needle <:+: t := by
  rw [← infix_join_iff filled absent, join_split]

end Separators

/-! ## Stretches -/

theorem infix_append_of_outside {before behind : Text} (stretch : Text)
    (outside : needle <:+: before ∨ needle <:+: behind) :
    needle <:+: before ++ stretch ++ behind := by
  cases outside with
  | inl here => exact List.infix_append_of_infix_left (List.infix_append_of_infix_left here)
  | inr there => exact List.infix_append_of_infix_right there

theorem Apart.infix_append {before stretch behind : Text} (apart : Apart needle stretch)
    (filled : needle ≠ []) (inside : needle <:+: before ++ stretch ++ behind) :
    needle <:+: before ∨ needle <:+: behind := by
  rw [List.append_assoc] at inside
  rcases List.infix_append_iff_ne_nil.1 inside with
    here | later | ⟨first, second, _, filledSecond, rfl, _, start⟩
  · exact Or.inl here
  · rcases List.infix_append_iff_ne_nil.1 later with
      ⟨s, t, rfl⟩ | there | ⟨first, second, filledFirst, _, rfl, ending, _⟩
    -- Inside the stretch.
    · refine absurd ⟨needle ++ t, ?_, by simp [filled], Or.inl (List.prefix_append needle t)⟩ apart.1
      rw [List.mem_tails, List.append_assoc]
      exact List.suffix_append s _
    · exact Or.inr there
    -- Across the end of the stretch.
    · exact absurd ⟨first, (List.mem_tails _ _).2 ending, filledFirst,
        Or.inr (List.prefix_append first second)⟩ apart.1
  -- Across its start.
  · exact absurd ⟨second, (List.mem_tails _ _).2 (List.suffix_append first second), filledSecond,
      (startsAlike_of_isPrefix start).symm⟩ apart.2

theorem replaceFirst_cases (other replacement t : Text) :
    (¬ other <:+: t ∧ replaceFirst other replacement t = t) ∨
      ∃ before behind, t = before ++ other ++ behind ∧
        replaceFirst other replacement t = before ++ replacement ++ behind := by
  cases found : (Pattern.literal other).find t with
  | none =>
    refine Or.inl ⟨?_, Pattern.replaceFirst_of_find_eq_none found⟩
    rw [← contains_iff_infix, contains, found]
    simp
  | some m =>
    obtain ⟨place, rfl, applies⟩ := Pattern.findFrom_eq_some found
    obtain ⟨behind, here, same⟩ := Option.map_eq_some_iff.1 applies
    rw [dropStart?_eq_some_iff] at here
    obtain rfl : behind = m.after := congrArg Prod.snd same
    refine Or.inr ⟨m.before, m.after, by rw [here, List.append_assoc], ?_⟩
    rw [replaceFirst, Pattern.replaceFirst, found]

theorem infix_replaceFirst_iff {other replacement : Text} (filled : needle ≠ [])
    (apart : Apart needle other) (apart' : Apart needle replacement) (t : Text) :
    needle <:+: replaceFirst other replacement t ↔ needle <:+: t := by
  rcases replaceFirst_cases other replacement t with ⟨_, same⟩ | ⟨before, behind, rfl, same⟩
  · rw [same]
  · have outside {stretch : Text} (apart : Apart needle stretch) :
        needle <:+: before ++ stretch ++ behind ↔ needle <:+: before ∨ needle <:+: behind :=
      ⟨apart.infix_append filled, infix_append_of_outside stretch⟩
    rw [same, outside apart, outside apart']

/-! ## Texts that are put behind the first occurrence -/

theorem take_replaceFirst_append (needle added : Text) {size : Nat} (small : size ≤ needle.length)
    (t : Text) : (replaceFirst needle (needle ++ added) t).take size = t.take size := by
  induction t generalizing size with
  | nil =>
    by_cases here : needle <+: []
    · obtain rfl := List.prefix_nil.1 here
      obtain rfl : size = 0 := Nat.le_zero.1 small
      simp
    · rw [replaceFirst_nil _ here]
  | cons c rest ih =>
    by_cases here : needle <+: c :: rest
    · obtain ⟨behind, same⟩ := here
      rw [← same, replaceFirst_append, List.append_assoc, List.take_append_of_le_length small,
        List.take_append_of_le_length small]
    · rw [replaceFirst_cons _ here]
      cases size with
      | zero => simp
      | succ size => rw [List.take_succ_cons, List.take_succ_cons, ih (by omega)]

section Added

variable {added t t' : Text}

theorem isPrefix_replaceFirst_append_iff :
    needle <+: replaceFirst needle (needle ++ added) t ↔ needle <+: t := by
  rw [List.prefix_iff_eq_take, List.prefix_iff_eq_take,
    take_replaceFirst_append needle added (Nat.le_refl _)]

theorem eq_of_isPrefix_of_replaceFirst_append (here : needle <+: t)
    (same : replaceFirst needle (needle ++ added) t = replaceFirst needle (needle ++ added) t') :
    t = t' := by
  have here' : needle <+: t' := by
    rwa [← isPrefix_replaceFirst_append_iff, ← same, isPrefix_replaceFirst_append_iff]
  obtain ⟨behind, rfl⟩ := here
  obtain ⟨behind', rfl⟩ := here'
  rw [replaceFirst_append, replaceFirst_append] at same
  rw [List.append_cancel_left same]

end Added

theorem replaceFirst_append_injective (needle added : Text) :
    Function.Injective (replaceFirst needle (needle ++ added)) := by
  intro t t' same
  -- Both texts are followed as long as the needle stands at the start of neither.
  induction t generalizing t' with
  | nil =>
    by_cases here : needle <+: []
    · exact eq_of_isPrefix_of_replaceFirst_append here same
    · cases t' with
      | nil => rfl
      | cons d rest' =>
        by_cases here' : needle <+: d :: rest'
        · exact (eq_of_isPrefix_of_replaceFirst_append here' same.symm).symm
        · rw [replaceFirst_nil _ here, replaceFirst_cons _ here'] at same
          contradiction
  | cons c rest ih =>
    by_cases here : needle <+: c :: rest
    · exact eq_of_isPrefix_of_replaceFirst_append here same
    · by_cases here' : needle <+: t'
      · exact (eq_of_isPrefix_of_replaceFirst_append here' same.symm).symm
      · cases t' with
        | nil =>
          rw [replaceFirst_cons _ here, replaceFirst_nil _ here'] at same
          contradiction
        | cons d rest' =>
          rw [replaceFirst_cons _ here, replaceFirst_cons _ here', List.cons.injEq] at same
          rw [same.1, ih same.2]

end Snippet.Text
