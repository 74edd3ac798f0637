import Mathlib.Data.List.Nodup
import Snippet.Markup.Html
import Snippet.Proofs.Text.FirstMatch
import Snippet.Proofs.Text.Words

/-!
# Passes over page markup

A renaming of an attribute brings in no blank and no quotation mark. So one pass neither moves nor
makes nor hides what another one is looking for: an attribute that is found is renamed, a character
where none is found is copied, and the passes go on behind it, whatever other passes there are.
-/

namespace Snippet.Markup.Html

open Text (Unbroken)

/-! ## Places -/

/-- What follows the name of an attribute and its equals sign, if they stand behind a blank at the
start of a text. -/
def nameAt? (name : Text) : Text → Option Text
  | [] => none
  | c :: rest => if Unicode.isBlank c then Text.dropStart? (name ++ "=") rest else none

/-- The value of an inline style and what follows it, if it stands behind a blank at the start of a
text. -/
def styleAt? : Text → Option (Text × Text)
  | [] => none
  | c :: rest =>
    if Unicode.isBlank c then (Text.dropStart? "style=\"" rest).bind (Text.splitOnce '"') else none

section Places

variable {name value behind : Text} {c : Char} {rest : Text}

theorem nameAt?_eq_some_iff :
    nameAt? name (c :: rest) = some behind ↔
      Unicode.isBlank c = true ∧ rest = name ++ "=" ++ behind := by
  rw [nameAt?, Option.ite_none_right_eq_some, Text.dropStart?_eq_some_iff]

theorem styleAt?_eq_some_iff :
    styleAt? (c :: rest) = some (value, behind) ↔
      Unicode.isBlank c = true ∧ '"' ∉ value ∧ rest = "style=\"" ++ (value ++ '"' :: behind) := by
  rw [styleAt?, Option.ite_none_right_eq_some, Option.bind_eq_some_iff]
  simp only [Text.dropStart?_eq_some_iff]
  constructor
  · rintro ⟨blank, quoted, rfl, cut⟩
    obtain ⟨rfl, absent⟩ := Text.splitOnce_eq_some cut
    exact ⟨blank, absent, rfl⟩
  · rintro ⟨blank, absent, rfl⟩
    exact ⟨blank, _, rfl, Text.splitOnce_append_cons absent⟩

theorem nameAt?_of_visible (visible : Unicode.isBlank c = false) (rest : Text) :
    nameAt? name (c :: rest) = none := by
  rw [nameAt?, if_neg (by simp [visible])]

theorem styleAt?_of_visible (visible : Unicode.isBlank c = false) (rest : Text) :
    styleAt? (c :: rest) = none := by
  rw [styleAt?, if_neg (by simp [visible])]

end Places

/-! ## Passes one after another -/

section Renaming

variable {name newName : Text} {c : Char} {rest : Text}

theorem attributeStart_cons (name : Text) (previous : Option Char) (c : Char) (rest : Text) :
    attributeStart name previous (c :: rest) =
      (nameAt? name (c :: rest)).map fun behind => ((c, ()), behind) := by
  rw [attributeStart, Text.Pattern.afterBlank, nameAt?]
  split
  · rw [Text.Pattern.literal, Option.map_map]
    rfl
  · rfl

theorem renameAttribute_nil (name newName : Text) : renameAttribute name newName [] = [] :=
  rfl

theorem renameAttribute_of_some (blank : Unicode.isBlank c = true) (name newName behind : Text) :
    renameAttribute name newName (c :: (name ++ "=" ++ behind)) =
      c :: (newName ++ "=" ++ behind) := by
  have found : attributeStart name none (c :: (name ++ "=" ++ behind)) = some ((c, ()), behind) := by
    rw [attributeStart_cons, nameAt?_eq_some_iff.2 ⟨blank, rfl⟩, Option.map_some]
  exact Text.Pattern.replaceFirst_of_match _ found

theorem renameAttribute_of_none (newName : Text) (missing : nameAt? name (c :: rest) = none) :
    renameAttribute name newName (c :: rest) = c :: renameAttribute name newName rest := by
  have nothing : attributeStart name none (c :: rest) = none := by
    rw [attributeStart_cons, missing, Option.map_none]
  exact Text.Pattern.replaceFirst_cons (Text.Pattern.looksAhead_afterBlank _) _ nothing

theorem renameAttribute_append {stretch : Text} (unbroken : Unbroken stretch)
    (name newName behind : Text) :
    renameAttribute name newName (stretch ++ behind) =
      stretch ++ renameAttribute name newName behind := by
  induction stretch with
  | nil => rfl
  | cons c rest ih =>
    obtain ⟨visible, others⟩ := List.forall_mem_cons.1 unbroken
    rw [List.cons_append, renameAttribute_of_none newName (nameAt?_of_visible visible _), ih others,
      List.cons_append]

theorem isPrefix_of_isPrefix_renameAttribute {start t : Text} (unbroken : Unbroken start)
    (found : start <+: renameAttribute name newName t) : start <+: t := by
  induction t generalizing start with
  | nil => exact found
  | cons c rest ih =>
    cases start with
    | nil => exact List.nil_prefix
    | cons d others =>
      obtain ⟨visible, unbrokenOthers⟩ := List.forall_mem_cons.1 unbroken
      -- The first character is kept in any case; being no blank, it is none that an attribute follows.
      have same : d = c := by
        cases here : nameAt? name (c :: rest) with
        | none =>
          rw [renameAttribute_of_none newName here, List.cons_prefix_cons] at found
          exact found.1
        | some behind =>
          obtain ⟨blank, rfl⟩ := nameAt?_eq_some_iff.1 here
          rw [renameAttribute_of_some blank, List.cons_prefix_cons] at found
          exact found.1
      subst same
      rw [renameAttribute_of_none newName (nameAt?_of_visible visible rest)] at found
      rw [List.cons_prefix_cons] at found ⊢
      exact ⟨rfl, ih unbrokenOthers found.2⟩

theorem mem_of_mem_renameAttribute {mark : Char} (absent : mark ∉ newName ++ "=") {t : Text}
    (member : mark ∈ renameAttribute name newName t) : mark ∈ t := by
  induction t with
  | nil => exact member
  | cons c rest ih =>
    cases here : nameAt? name (c :: rest) with
    | none =>
      rw [renameAttribute_of_none newName here, List.mem_cons] at member
      exact List.mem_cons.2 (member.imp_right ih)
    | some behind =>
      obtain ⟨blank, rfl⟩ := nameAt?_eq_some_iff.1 here
      rw [renameAttribute_of_some blank, List.mem_cons, List.mem_append] at member
      rw [List.mem_cons, List.mem_append]
      exact member.imp_right fun inside => Or.inr (inside.resolve_left absent)

end Renaming

/-- A name of an attribute as it can be told from what stands around it. -/
structure IsPlainName (name : Text) : Prop where
  unbroken : Unbroken (name ++ "=")
  noEquals : '=' ∉ name
  noMark : '"' ∉ name ++ "="
  noStyle : name ≠ "style"

/-- Renamings of different attributes, none of which gives an attribute the old name of another. -/
structure Separate (list : List (Text × Text)) : Prop where
  plain : ∀ names ∈ list, IsPlainName names.1 ∧ IsPlainName names.2
  distinct : (list.map Prod.fst).Nodup
  fresh : ∀ names ∈ list, ∀ others ∈ list, names.2 ≠ others.1

theorem Separate.sublist {list part : List (Text × Text)} (separate : Separate list)
    (sub : part.Sublist list) : Separate part where
  plain names listed := separate.plain names (sub.subset listed)
  distinct := separate.distinct.sublist (sub.map Prod.fst)
  fresh names listed others listed' :=
    separate.fresh names (sub.subset listed) others (sub.subset listed')

theorem Separate.remove {before after : List (Text × Text)} {names : Text × Text}
    (separate : Separate (before ++ names :: after)) : Separate (before ++ after) :=
  separate.sublist ((List.sublist_cons_self names after).append_left before)

theorem Separate.perm {list others : List (Text × Text)} (separate : Separate list)
    (reordered : list.Perm others) : Separate others where
  plain names listed := separate.plain names (reordered.symm.subset listed)
  distinct := (reordered.map Prod.fst).nodup_iff.1 separate.distinct
  fresh names listed others listed' :=
    separate.fresh names (reordered.symm.subset listed) others (reordered.symm.subset listed')

theorem Separate.ne {before after : List (Text × Text)} {names other : Text × Text}
    (separate : Separate (before ++ names :: after)) (listed : other ∈ before ++ after) :
    other.1 ≠ names.1 := by
  have distinct := separate.distinct
  rw [List.map_append, List.map_cons, List.nodup_middle, List.nodup_cons, ← List.map_append] at distinct
  intro same
  exact distinct.1 (same ▸ List.mem_map_of_mem listed)

def renamings : List (Text × Text) :=
  [("class", "className"), ("for", "htmlFor")]

theorem separate_renamings : Separate renamings where
  plain := by
    intro names listed
    simp only [renamings, List.mem_cons, List.not_mem_nil, or_false] at listed
    obtain rfl | rfl := listed
    · exact ⟨⟨by decide, by decide, by decide, by decide⟩, ⟨by decide, by decide, by decide, by decide⟩⟩
    · exact ⟨⟨by decide, by decide, by decide, by decide⟩, ⟨by decide, by decide, by decide, by decide⟩⟩
  distinct := by decide
  fresh := by decide

theorem nameAt?_of_ne {name other : Text} (plain : IsPlainName name) (plain' : IsPlainName other)
    (different : name ≠ other) (c : Char) (behind : Text) :
    nameAt? name (c :: (other ++ "=" ++ behind)) = none := by
  rw [Option.eq_none_iff_forall_ne_some]
  intro found here
  have same := (nameAt?_eq_some_iff.1 here).2
  rw [List.append_assoc, List.append_assoc] at same
  -- Either name ends at the first equals sign, so they would be one.
  exact different (Text.append_cons_inj plain.noEquals plain'.noEquals same.symm).1

def renameAll (list : List (Text × Text)) (t : Text) : Text :=
  list.foldl (fun t names => renameAttribute names.1 names.2 t) t

section Passes

variable {list : List (Text × Text)} {c : Char} {rest : Text}

theorem renameAll_cons (names : Text × Text) (list : List (Text × Text)) (t : Text) :
    renameAll (names :: list) t = renameAll list (renameAttribute names.1 names.2 t) :=
  rfl

theorem renameAll_nil (list : List (Text × Text)) : renameAll list [] = [] := by
  induction list with
  | nil => rfl
  | cons names list ih => rw [renameAll_cons, renameAttribute_nil, ih]

theorem renameAll_append_list (list others : List (Text × Text)) (t : Text) :
    renameAll (list ++ others) t = renameAll others (renameAll list t) :=
  List.foldl_append

theorem renameAll_append {stretch : Text} (unbroken : Unbroken stretch)
    (list : List (Text × Text)) (behind : Text) :
    renameAll list (stretch ++ behind) = stretch ++ renameAll list behind := by
  induction list generalizing behind with
  | nil => rfl
  | cons names list ih =>
    rw [renameAll_cons, renameAttribute_append unbroken, ih, renameAll_cons]

theorem isPrefix_of_isPrefix_renameAll {start t : Text} (unbroken : Unbroken start)
    (found : start <+: renameAll list t) : start <+: t := by
  induction list generalizing t with
  | nil => exact found
  | cons names list ih => exact isPrefix_of_isPrefix_renameAttribute unbroken (ih found)

theorem mem_of_mem_renameAll (separate : Separate list) {t : Text}
    (member : '"' ∈ renameAll list t) : '"' ∈ t := by
  induction list generalizing t with
  | nil => exact member
  | cons names list ih =>
    have noMark := (separate.plain names List.mem_cons_self).2.noMark
    exact mem_of_mem_renameAttribute noMark
      (ih (separate.sublist (List.sublist_cons_self names list)) member)

theorem nameAt?_renameAttribute {name : Text} (plain : IsPlainName name)
    (missing : nameAt? name (c :: rest) = none) (names : Text × Text) :
    nameAt? name (c :: renameAttribute names.1 names.2 rest) = none := by
  rw [Option.eq_none_iff_forall_ne_some] at missing ⊢
  intro behind here
  obtain ⟨blank, same⟩ := nameAt?_eq_some_iff.1 here
  obtain ⟨behind', rfl⟩ := isPrefix_of_isPrefix_renameAttribute plain.unbroken ⟨behind, same.symm⟩
  exact missing behind' (nameAt?_eq_some_iff.2 ⟨blank, rfl⟩)

theorem renameAll_of_none (separate : Separate list)
    (missing : ∀ names ∈ list, nameAt? names.1 (c :: rest) = none) :
    renameAll list (c :: rest) = c :: renameAll list rest := by
  induction list generalizing rest with
  | nil => rfl
  | cons names list ih =>
    obtain ⟨here, others⟩ := List.forall_mem_cons.1 missing
    have still : ∀ other ∈ list,
        nameAt? other.1 (c :: renameAttribute names.1 names.2 rest) = none := fun other listed =>
      nameAt?_renameAttribute (separate.plain other (List.mem_cons_of_mem names listed)).1
        (others other listed) names
    rw [renameAll_cons, renameAttribute_of_none names.2 here,
      ih (separate.sublist (List.sublist_cons_self names list)) still, renameAll_cons]

theorem forall_none_or_exists_some (list : List (Text × Text)) (c : Char) (rest : Text) :
    (∀ names ∈ list, nameAt? names.1 (c :: rest) = none) ∨
      ∃ before names after behind, list = before ++ names :: after ∧
        Unicode.isBlank c = true ∧ rest = names.1 ++ "=" ++ behind := by
  by_cases missing : ∀ names ∈ list, nameAt? names.1 (c :: rest) = none
  · exact Or.inl missing
  · right
    simp only [not_forall, exists_prop] at missing
    obtain ⟨names, listed, found⟩ := missing
    obtain ⟨behind, here⟩ := Option.ne_none_iff_exists'.1 found
    obtain ⟨before, after, rfl⟩ := List.append_of_mem listed
    exact ⟨before, names, after, behind, rfl, nameAt?_eq_some_iff.1 here⟩

theorem renameAll_of_some {before after : List (Text × Text)} {names : Text × Text}
    (separate : Separate (before ++ names :: after)) (blank : Unicode.isBlank c = true)
    (behind : Text) :
    renameAll (before ++ names :: after) (c :: (names.1 ++ "=" ++ behind)) =
      c :: (names.2 ++ "=" ++ renameAll (before ++ after) behind) := by
  have member : names ∈ before ++ names :: after := by simp
  obtain ⟨plain, plain'⟩ := separate.plain names member
  have first : ∀ other ∈ before, nameAt? other.1 (c :: (names.1 ++ "=" ++ behind)) = none :=
    fun other listed =>
      nameAt?_of_ne (separate.plain other (by simp [listed])).1 plain
        (separate.ne (List.mem_append_left after listed)) c behind
  have second (t : Text) : ∀ other ∈ after, nameAt? other.1 (c :: (names.2 ++ "=" ++ t)) = none := by
    intro other listed
    have listed' : other ∈ before ++ names :: after := by simp [listed]
    exact nameAt?_of_ne (separate.plain other listed').1 plain'
      (separate.fresh names member other listed').symm c t
  have separateBefore := separate.sublist (List.sublist_append_left before (names :: after))
  have separateAfter := separate.sublist
    ((List.sublist_cons_self names after).trans (List.sublist_append_right before (names :: after)))
  -- The passes before copy the old name, one pass renames it, and the passes after copy the new name.
  rw [renameAll_append_list, renameAll_of_none separateBefore first,
    renameAll_append plain.unbroken, renameAll_cons, renameAttribute_of_some blank,
    renameAll_of_none separateAfter (second _), renameAll_append plain'.unbroken,
    ← renameAll_append_list]

end Passes

/-! ## The inline style -/

section Style

variable {list : List (Text × Text)} {c : Char} {rest : Text}

theorem after_quotedBy (start : Text) (mark : Char) (previous : Option Char) (t : Text) :
    Text.Pattern.after start (Text.Pattern.quotedBy mark) previous t =
      (Text.dropStart? (start ++ [mark]) t).bind (Text.splitOnce mark) := by
  rw [Text.Pattern.after]
  cases found : Text.dropStart? start t with
  | none =>
    have missing : Text.dropStart? (start ++ [mark]) t = none := by
      rw [Option.eq_none_iff_forall_ne_some] at found ⊢
      intro behind here
      apply found (mark :: behind)
      rw [Text.dropStart?_eq_some_iff] at here ⊢
      rw [here, List.append_assoc, List.singleton_append]
    rw [missing]
    rfl
  | some behind =>
    rw [Text.dropStart?_eq_some_iff.1 found, Text.dropStart?_append, Option.bind_some]
    cases behind with
    | nil => rfl
    | cons d others =>
      by_cases same : d = mark
      · have opened : Text.dropStart? [mark] (d :: others) = some others := by
          rw [Text.dropStart?_eq_some_iff, same, List.singleton_append]
        rw [opened, Text.Pattern.quotedBy, if_pos same, Option.bind_some]
      · have missing : Text.dropStart? [mark] (d :: others) = none := by
          rw [Option.eq_none_iff_forall_ne_some]
          intro behind here
          rw [Text.dropStart?_eq_some_iff, List.singleton_append, List.cons.injEq] at here
          exact same here.1
        rw [missing, Text.Pattern.quotedBy, if_neg same, Option.bind_none]

theorem styleAttribute_cons (previous : Option Char) (c : Char) (rest : Text) :
    styleAttribute previous (c :: rest) =
      (styleAt? (c :: rest)).map fun style => ((c, style.1), style.2) := by
  have opening : (↑"style=" : Text) ++ ['"'] = "style=\"" := rfl
  rw [styleAttribute, Text.Pattern.afterBlank, styleAt?, after_quotedBy, opening]
  split
  · rfl
  · rfl

theorem replaceStyle_of_some {value behind : Text} (blank : Unicode.isBlank c = true)
    (unmarked : '"' ∉ value) :
    replaceStyle (c :: ("style=\"" ++ (value ++ '"' :: behind))) = c :: (styleText value ++ behind) := by
  have found : styleAttribute none (c :: ("style=\"" ++ (value ++ '"' :: behind))) =
      some ((c, value), behind) := by
    rw [styleAttribute_cons, styleAt?_eq_some_iff.2 ⟨blank, unmarked, rfl⟩, Option.map_some]
  exact Text.Pattern.replaceFirst_of_match _ found

theorem replaceStyle_of_none (missing : styleAt? (c :: rest) = none) :
    replaceStyle (c :: rest) = c :: replaceStyle rest := by
  have nothing : styleAttribute none (c :: rest) = none := by
    rw [styleAttribute_cons, missing, Option.map_none]
  exact Text.Pattern.replaceFirst_cons (Text.Pattern.looksAhead_afterBlank _) _ nothing

theorem replaceStyle_append {stretch : Text} (unbroken : Unbroken stretch) (behind : Text) :
    replaceStyle (stretch ++ behind) = stretch ++ replaceStyle behind := by
  induction stretch with
  | nil => rfl
  | cons c rest ih =>
    obtain ⟨visible, others⟩ := List.forall_mem_cons.1 unbroken
    rw [List.cons_append, replaceStyle_of_none (styleAt?_of_visible visible _), ih others,
      List.cons_append]

theorem styleAt?_of_plain {name : Text} (plain : IsPlainName name) (c : Char) (behind : Text) :
    styleAt? (c :: (name ++ "=" ++ behind)) = none := by
  rw [Option.eq_none_iff_forall_ne_some]
  intro found here
  have same := (styleAt?_eq_some_iff.1 here).2.2
  have cut : name ++ '=' :: behind = "style" ++ '=' :: '"' :: (found.1 ++ '"' :: found.2) := by
    simpa using same
  -- Here too the name ends at the first equals sign.
  exact plain.noStyle (Text.append_cons_inj plain.noEquals (by decide) cut).1

theorem styleAt?_renameAll (separate : Separate list) (missing : styleAt? (c :: rest) = none) :
    styleAt? (c :: renameAll list rest) = none := by
  rw [Option.eq_none_iff_forall_ne_some] at missing ⊢
  intro found here
  obtain ⟨blank, _, same⟩ := styleAt?_eq_some_iff.1 here
  have unbroken : Unbroken ↑"style=\"" := by decide
  obtain ⟨behind, rfl⟩ := isPrefix_of_isPrefix_renameAll unbroken ⟨_, same.symm⟩
  rw [renameAll_append unbroken, List.append_cancel_left_eq] at same
  -- The closing quotation mark was there before.
  have mark : '"' ∈ behind := mem_of_mem_renameAll separate (same ▸ by simp)
  obtain ⟨value, after, rfl, unmarked⟩ := List.eq_append_cons_of_mem mark
  exact missing (value, after) (styleAt?_eq_some_iff.2 ⟨blank, unmarked, rfl⟩)

end Style

end Snippet.Markup.Html
