import Snippet.Conversion.Run
import Snippet.Proofs.Markup.AttributePasses
import Snippet.Proofs.Text.Edits

/-!
# Edits of page markup

The three passes over page markup find their places in the original text. The output is therefore the
original with all edits made together. A renaming that falls inside the value of the inline style is
made in the value before this becomes an object.
-/

namespace Snippet.Markup.Html

open Text (Edit Unbroken firstPlace?)

/-! ## Edits in the original text -/

def nameEdit? (place : Nat) (t : Text) (names : Text × Text) : Option Edit :=
  (firstPlace? (nameAt? names.1) place t).map fun first =>
    -- The blank in front is kept; the equals sign is replaced together with the name.
    ⟨first.1 + 1, names.1.length + 1, names.2 ++ "="⟩

def nameEdits (list : List (Text × Text)) (place : Nat) (t : Text) : List Edit :=
  list.filterMap (nameEdit? place t)

/-- The edit that makes the first inline style an object; other edits are made in its value before. -/
def styleEdit? (edits : List Edit) (place : Nat) (t : Text) : Option Edit :=
  (firstPlace? styleAt? place t).map fun (n, value, _) =>
    ⟨n + 1, "style=\"\"".length + value.length,
      styleText (Edit.applyAll edits (n + 1 + "style=\"".length) value)⟩

/-- All edits of a page. An edit inside the inline style stands behind it in the list, so that it is
made in the value and nowhere else. -/
def pageEdits (list : List (Text × Text)) (place : Nat) (t : Text) : List Edit :=
  (styleEdit? (nameEdits list place t) place t).toList ++ nameEdits list place t

/-! ## Renamings as edits -/

section Renamings

variable {names : Text × Text} {list before after : List (Text × Text)} {place : Nat} {c : Char}
  {rest behind : Text} {e : Edit}

theorem nameEdit?_of_none (missing : nameAt? names.1 (c :: rest) = none) :
    nameEdit? place (c :: rest) names = nameEdit? (place + 1) rest names := by
  rw [nameEdit?, Text.firstPlace?_of_none missing, nameEdit?]

theorem nameEdit?_of_some (blank : Unicode.isBlank c = true) :
    nameEdit? place (c :: (names.1 ++ "=" ++ behind)) names =
      some ⟨place + 1, names.1.length + 1, names.2 ++ "="⟩ := by
  rw [nameEdit?, Text.firstPlace?_of_some (nameAt?_eq_some_iff.2 ⟨blank, rfl⟩), Option.map_some]

theorem nameEdit?_append {stretch : Text} (unbroken : Unbroken stretch) :
    nameEdit? place (stretch ++ behind) names = nameEdit? (place + stretch.length) behind names := by
  rw [nameEdit?, Text.firstPlace?_append, nameEdit?]
  exact fun c member t => nameAt?_of_visible (unbroken c member) t

theorem lt_start_of_nameEdit? {t : Text} (found : nameEdit? place t names = some e) :
    place < e.start := by
  obtain ⟨first, isFirst, rfl⟩ := Option.map_eq_some_iff.1 found
  exact Nat.lt_succ_of_le (Text.le_of_firstPlace? isFirst)

theorem lt_start_of_mem_nameEdits {t : Text} (listed : e ∈ nameEdits list place t) :
    place < e.start := by
  obtain ⟨names, _, found⟩ := List.mem_filterMap.1 listed
  exact lt_start_of_nameEdit? found

theorem nameEdits_of_none (missing : ∀ names ∈ list, nameAt? names.1 (c :: rest) = none) :
    nameEdits list place (c :: rest) = nameEdits list (place + 1) rest :=
  List.filterMap_congr fun names listed => nameEdit?_of_none (missing names listed)

theorem nameEdits_append {stretch : Text} (unbroken : Unbroken stretch) :
    nameEdits list place (stretch ++ behind) = nameEdits list (place + stretch.length) behind :=
  List.filterMap_congr fun _ _ => nameEdit?_append unbroken

/-- The attribute that is found gives an edit; those of the others are placed behind it. -/
theorem nameEdits_of_some (separate : Separate (before ++ names :: after))
    (blank : Unicode.isBlank c = true) :
    nameEdits (before ++ names :: after) place (c :: (names.1 ++ "=" ++ behind)) =
      nameEdits before (place + 1 + (names.1 ++ "=").length) behind ++
        ⟨place + 1, names.1.length + 1, names.2 ++ "="⟩ ::
          nameEdits after (place + 1 + (names.1 ++ "=").length) behind := by
  have plain := (separate.plain names (by simp)).1
  have others (part : List (Text × Text)) (listed : ∀ other ∈ part, other ∈ before ++ after) :
      nameEdits part place (c :: (names.1 ++ "=" ++ behind)) =
        nameEdits part (place + 1 + (names.1 ++ "=").length) behind := by
    rw [nameEdits_of_none, nameEdits_append plain.unbroken]
    intro other inPart
    have member := listed other inPart
    have listed' : other ∈ before ++ names :: after := by
      rw [List.mem_append] at member ⊢
      exact member.imp_right (List.mem_cons_of_mem names)
    exact nameAt?_of_ne (separate.plain other listed').1 plain (separate.ne member) c behind
  rw [nameEdits, List.filterMap_append, List.filterMap_cons_some (nameEdit?_of_some blank)]
  rw [← nameEdits, ← nameEdits, others before fun _ => List.mem_append_left after,
    others after fun _ => List.mem_append_right before]

theorem nameEdits_append_list (list others : List (Text × Text)) (place : Nat) (t : Text) :
    nameEdits (list ++ others) place t = nameEdits list place t ++ nameEdits others place t :=
  List.filterMap_append

theorem applyAll_nameEdits_cons {t : Text} :
    Edit.applyAll (nameEdits list place t) place (c :: rest) =
      c :: Edit.applyAll (nameEdits list place t) (place + 1) rest :=
  Edit.applyAll_cons (fun _ listed => Edit.covers_of_lt (lt_start_of_mem_nameEdits listed)) c rest

theorem applyAll_nameEdit {names : Text × Text} {before after : List Edit}
    (later : ∀ e ∈ before, place + (names.1 ++ "=").length < e.start) (behind : Text) :
    Edit.applyAll (before ++ ⟨place, names.1.length + 1, names.2 ++ "="⟩ :: after) place
        (names.1 ++ "=" ++ behind) =
      names.2 ++ "=" ++ Edit.applyAll (before ++ after) (place + (names.1 ++ "=").length) behind := by
  let edit : Edit := ⟨place, names.1.length + 1, names.2 ++ "="⟩
  have filled : (names.1 ++ "=" : Text) ≠ [] := by simp
  have removed : (names.1 ++ "=" : Text).length = edit.removed := List.length_append
  have behindIt : ∀ e ∈ before, edit.start + edit.removed ≤ e.start := by
    intro e listed
    rw [← removed]
    exact (later e listed).le
  exact Edit.applyAll_stretch behindIt filled removed behind

/-- One pass after another makes the edits that are found in the original text. -/
theorem renameAll_eq_applyAll {list : List (Text × Text)} (separate : Separate list) (place : Nat)
    (t : Text) :
    renameAll list t = Edit.applyAll (nameEdits list place t) place t := by
  match t with
  | [] => exact renameAll_nil list
  | c :: rest =>
    rw [applyAll_nameEdits_cons]
    obtain missing | ⟨before, names, after, behind, rfl, blank, rfl⟩ :=
      forall_none_or_exists_some list c rest
    · rw [renameAll_of_none separate missing, nameEdits_of_none missing,
        renameAll_eq_applyAll separate (place + 1) rest]
    · rw [renameAll_of_some separate blank, nameEdits_of_some separate blank,
        applyAll_nameEdit fun _ listed => lt_start_of_mem_nameEdits listed,
        ← nameEdits_append_list, renameAll_eq_applyAll separate.remove _ behind]
termination_by t.length

/-! ### Renamings before a quotation mark -/

/-- What is read before a mark that it does not contain stands before the mark. -/
theorem isPrefix_of_append_mark {s value after : Text} {mark : Char} (unmarked : mark ∉ s)
    (same : value ++ mark :: behind = s ++ after) : s <+: value := by
  obtain ⟨rest, rfl, cut⟩ | ⟨rest, rfl, _⟩ := List.append_eq_append_iff.1 same
  · cases rest with
    | nil => simp
    | cons d others =>
      rw [List.cons_append, List.cons.injEq] at cut
      exact absurd (by simp [cut.1]) unmarked
  · exact List.prefix_append s rest

theorem covers_mark {value : Text} (unmarked : '"' ∉ names.1 ++ "=")
    (found : nameEdit? place (value ++ '"' :: behind) names = some e) :
    e.covers (place + value.length) = false := by
  induction value generalizing place with
  | nil => exact Edit.covers_of_lt (lt_start_of_nameEdit? found)
  | cons c rest ih =>
    have next : place + (c :: rest).length = place + 1 + rest.length := by
      rw [List.length_cons]
      omega
    rw [List.cons_append] at found
    rw [next]
    cases here : nameAt? names.1 (c :: (rest ++ '"' :: behind)) with
    | none =>
      rw [nameEdit?_of_none here] at found
      exact ih found
    | some after =>
      -- The name and its equals sign have no mark, so they end in front of this one.
      obtain ⟨blank, same⟩ := nameAt?_eq_some_iff.1 here
      rw [same, nameEdit?_of_some blank, Option.some.injEq] at found
      have length := (isPrefix_of_append_mark unmarked same).length_le
      rw [List.length_append] at length
      rw [← found, ← Bool.not_eq_true, Edit.covers_iff]
      exact fun covered => absurd covered.2 (Nat.not_lt.2 (Nat.add_le_add_left length _))

theorem mem_written_of_mem_nameEdits {t : Text} (separate : Separate list)
    (listed : e ∈ nameEdits list place t) : '"' ∉ e.written := by
  obtain ⟨names, member, found⟩ := List.mem_filterMap.1 listed
  obtain ⟨first, _, rfl⟩ := Option.map_eq_some_iff.1 found
  exact (separate.plain names member).2.noMark

/-- The value of an inline style is renamed in by itself, up to its closing mark. -/
theorem renameAll_append_mark (separate : Separate list) {value : Text} (unmarked : '"' ∉ value)
    (place : Nat) (behind : Text) :
    let edits := nameEdits list place (value ++ '"' :: behind)
    renameAll list (value ++ '"' :: behind) = Edit.applyAll edits place value ++
        '"' :: Edit.applyAll edits (place + value.length + 1) behind ∧
      '"' ∉ Edit.applyAll edits place value := by
  intro edits
  have uncovered : ∀ e ∈ edits, e.covers (place + value.length) = false := by
    intro e listed
    obtain ⟨names, member, found⟩ := List.mem_filterMap.1 listed
    exact covers_mark (separate.plain names member).1.noMark found
  constructor
  · rw [renameAll_eq_applyAll separate place, Edit.applyAll_append, Edit.applyAll_cons uncovered]
  · intro member
    exact unmarked (Edit.mem_of_mem_applyAll
      (fun _ listed => mem_written_of_mem_nameEdits separate listed) member)

end Renamings

/-! ## All passes as edits -/

section Page

variable {list : List (Text × Text)} {edits before after : List Edit} {place : Nat} {c : Char}
  {rest behind : Text} {e : Edit}

theorem styleEdit?_of_none (missing : styleAt? (c :: rest) = none) :
    styleEdit? edits place (c :: rest) = styleEdit? edits (place + 1) rest := by
  rw [styleEdit?, Text.firstPlace?_of_none missing, styleEdit?]

theorem styleEdit?_of_some {value : Text} (blank : Unicode.isBlank c = true)
    (unmarked : '"' ∉ value) :
    styleEdit? edits place (c :: ("style=\"" ++ (value ++ '"' :: behind))) =
      some ⟨place + 1, "style=\"\"".length + value.length,
        styleText (Edit.applyAll edits (place + 1 + "style=\"".length) value)⟩ := by
  rw [styleEdit?, Text.firstPlace?_of_some (styleAt?_eq_some_iff.2 ⟨blank, unmarked, rfl⟩),
    Option.map_some]

theorem styleEdit?_append {stretch : Text} (unbroken : Unbroken stretch) :
    styleEdit? edits place (stretch ++ behind) = styleEdit? edits (place + stretch.length) behind := by
  rw [styleEdit?, Text.firstPlace?_append, styleEdit?]
  exact fun c member t => styleAt?_of_visible (unbroken c member) t

theorem lt_start_of_styleEdit? {t : Text} (found : styleEdit? edits place t = some e) :
    place < e.start := by
  obtain ⟨first, isFirst, rfl⟩ := Option.map_eq_some_iff.1 found
  exact Nat.lt_succ_of_le (Text.le_of_firstPlace? isFirst)

theorem styleEdit?_of_ended (ended : e.start + e.removed ≤ place) (t : Text) :
    styleEdit? (before ++ e :: after) place t = styleEdit? (before ++ after) place t := by
  rw [styleEdit?, styleEdit?]
  refine Option.map_congr fun ⟨n, value, _⟩ isFirst => ?_
  have start := Text.le_of_firstPlace? isFirst
  dsimp only
  rw [Edit.applyAll_of_ended (by omega)]

theorem lt_start_of_mem_pageEdits {t : Text} (listed : e ∈ pageEdits list place t) :
    place < e.start := by
  obtain found | listed := List.mem_append.1 listed
  · exact lt_start_of_styleEdit? (Option.mem_toList.1 found)
  · exact lt_start_of_mem_nameEdits listed

theorem applyAll_pageEdits_cons :
    Edit.applyAll (pageEdits list place (c :: rest)) place (c :: rest) =
      c :: Edit.applyAll (pageEdits list place (c :: rest)) (place + 1) rest :=
  Edit.applyAll_cons (fun _ listed => Edit.covers_of_lt (lt_start_of_mem_pageEdits listed)) c rest

theorem pageEdits_of_none (missing : ∀ names ∈ list, nameAt? names.1 (c :: rest) = none)
    (noStyle : styleAt? (c :: rest) = none) :
    pageEdits list place (c :: rest) = pageEdits list (place + 1) rest := by
  rw [pageEdits, nameEdits_of_none missing, styleEdit?_of_none noStyle, pageEdits]

theorem applyAll_pageEdits_of_name {before after : List (Text × Text)} {names : Text × Text}
    (separate : Separate (before ++ names :: after)) (blank : Unicode.isBlank c = true)
    (behind : Text) :
    let t := c :: (names.1 ++ "=" ++ behind)
    let next := place + 1 + (names.1 ++ "=").length
    Edit.applyAll (pageEdits (before ++ names :: after) place t) place t =
      c :: (names.2 ++ "=" ++ Edit.applyAll (pageEdits (before ++ after) next behind) next behind) := by
  intro t next
  have plain := (separate.plain names (by simp)).1
  let edit : Edit := ⟨place + 1, names.1.length + 1, names.2 ++ "="⟩
  have removed : (names.1 ++ "=" : Text).length = edit.removed := List.length_append
  have ended : edit.start + edit.removed ≤ next := (congrArg (place + 1 + ·) removed).ge
  let style := (styleEdit? (nameEdits (before ++ after) next behind) next behind).toList
  have page : pageEdits (before ++ names :: after) place t =
      (style ++ nameEdits before next behind) ++ edit :: nameEdits after next behind := by
    rw [pageEdits, nameEdits_of_some separate blank, styleEdit?_of_none (styleAt?_of_plain plain c _),
      styleEdit?_append plain.unbroken, styleEdit?_of_ended ended, ← nameEdits_append_list,
      List.append_assoc]
  have others : pageEdits (before ++ after) next behind =
      (style ++ nameEdits before next behind) ++ nameEdits after next behind := by
    rw [List.append_assoc, ← nameEdits_append_list]
    rfl
  have later : ∀ e ∈ style ++ nameEdits before next behind, next < e.start := by
    intro e listed
    obtain found | listed := List.mem_append.1 listed
    · exact lt_start_of_styleEdit? (Option.mem_toList.1 found)
    · exact lt_start_of_mem_nameEdits listed
  rw [applyAll_pageEdits_cons, page, applyAll_nameEdit later, others]

theorem applyAll_styleEdit (after : List Edit) (place : Nat) (value written behind : Text) :
    Edit.applyAll (⟨place, "style=\"\"".length + value.length, written⟩ :: after) place
        ("style=\"" ++ (value ++ '"' :: behind)) =
      written ++ Edit.applyAll after (place + "style=\"".length + value.length + 1) behind := by
  let edit : Edit := ⟨place, "style=\"\"".length + value.length, written⟩
  have stretch : ("style=\"" ++ (value ++ '"' :: behind) : Text) =
      ("style=\"" ++ value ++ ['"']) ++ behind := by simp
  have marks : "style=\"\"".length = "style=\"".length + 1 := by decide
  have removed : ("style=\"" ++ value ++ ['"'] : Text).length = edit.removed := by
    simp only [List.length_append, edit, marks]
    exact Nat.add_right_comm _ value.length 1
  have next : place + edit.removed = place + "style=\"".length + value.length + 1 := by
    simp only [edit, marks]
    omega
  have first : ∀ e ∈ ([] : List Edit), edit.start + edit.removed ≤ e.start := nofun
  have applied : Edit.applyAll ([] ++ edit :: after) place ("style=\"" ++ value ++ ['"'] ++ behind) =
      written ++ Edit.applyAll ([] ++ after) (place + edit.removed) behind :=
    removed ▸ Edit.applyAll_stretch first (by simp) removed behind
  rw [stretch, ← next]
  exact applied

theorem applyAll_pageEdits_of_style {list : List (Text × Text)} (separate : Separate list)
    (blank : Unicode.isBlank c = true) {value : Text} (unmarked : '"' ∉ value) (behind : Text) :
    let t := c :: ("style=\"" ++ (value ++ '"' :: behind))
    Edit.applyAll (pageEdits list place t) place t = replaceStyle (renameAll list t) := by
  intro t
  have unbroken : Unbroken ↑"style=\"" := by decide
  have missing : ∀ names ∈ list, nameAt? names.1 t = none := by
    intro names listed
    rw [Option.eq_none_iff_forall_ne_some]
    intro found here
    obtain ⟨_, same⟩ := nameAt?_eq_some_iff.1 here
    have noStyle := styleAt?_of_plain (separate.plain names listed).1 c found
    rw [← same, styleAt?_eq_some_iff.2 ⟨blank, unmarked, rfl⟩] at noStyle
    contradiction
  let first := place + 1 + "style=\"".length
  let edits := nameEdits list first (value ++ '"' :: behind)
  have names : nameEdits list place t = edits := by
    rw [nameEdits_of_none missing, nameEdits_append unbroken]
    rfl
  -- No renaming reaches over the closing mark, so the passes leave an inline style where one was.
  obtain ⟨renamed, unmarked'⟩ := renameAll_append_mark separate unmarked first behind
  let edit : Edit := ⟨place + 1, "style=\"\"".length + value.length,
    styleText (Edit.applyAll edits first value)⟩
  have page : pageEdits list place t = edit :: edits := by
    rw [pageEdits, names, styleEdit?_of_some blank unmarked]
    rfl
  rw [renameAll_of_none separate missing, renameAll_append unbroken, renamed,
    replaceStyle_of_some blank unmarked', applyAll_pageEdits_cons, page, applyAll_styleEdit]

theorem replaceStyle_renameAll {list : List (Text × Text)} (separate : Separate list) (place : Nat)
    (t : Text) :
    replaceStyle (renameAll list t) = Edit.applyAll (pageEdits list place t) place t := by
  -- The recursion goes on behind what is found at the start, with the attribute found taken out.
  match t with
  | [] =>
    rw [renameAll_nil]
    rfl
  | c :: rest =>
    obtain missing | ⟨before, names, after, behind, rfl, blank, rfl⟩ :=
      forall_none_or_exists_some list c rest
    · cases here : styleAt? (c :: rest) with
      | none =>
        rw [applyAll_pageEdits_cons, pageEdits_of_none missing here,
          renameAll_of_none separate missing,
          replaceStyle_of_none (styleAt?_renameAll separate here),
          replaceStyle_renameAll separate (place + 1) rest]
      | some found =>
        obtain ⟨blank, unmarked, rfl⟩ := styleAt?_eq_some_iff.1 here
        rw [applyAll_pageEdits_of_style separate blank unmarked]
    · obtain ⟨_, plain⟩ := separate.plain names (by simp)
      rw [applyAll_pageEdits_of_name separate blank, renameAll_of_some separate blank,
        replaceStyle_of_none (styleAt?_of_plain plain c _), replaceStyle_append plain.unbroken,
        replaceStyle_renameAll separate.remove _ behind]
termination_by t.length

end Page

/-! ## The order of the renamings -/

theorem renameAll_eq_of_perm {list others : List (Text × Text)} (separate : Separate list)
    (reordered : others.Perm list) (t : Text) : renameAll others t = renameAll list t := by
  match t with
  | [] => rw [renameAll_nil, renameAll_nil]
  | c :: rest =>
    have separate' := separate.perm reordered.symm
    obtain missing | ⟨before, names, after, behind, rfl, blank, rfl⟩ :=
      forall_none_or_exists_some list c rest
    · have missing' : ∀ names ∈ others, nameAt? names.1 (c :: rest) = none :=
        fun names listed => missing names (reordered.subset listed)
      rw [renameAll_of_none separate missing, renameAll_of_none separate' missing',
        renameAll_eq_of_perm separate reordered rest]
    · have listed : names ∈ others := reordered.symm.subset (by simp)
      obtain ⟨before', after', rfl⟩ := List.append_of_mem listed
      have reordered' : (before' ++ after').Perm (before ++ after) :=
        (List.perm_middle.symm.trans (reordered.trans List.perm_middle)).cons_inv
      rw [renameAll_of_some separate blank, renameAll_of_some separate' blank,
        renameAll_eq_of_perm separate.remove reordered' behind]
termination_by t.length

/-- The output is the page with all edits made that are found in it, and the passes that rename may
be exchanged. -/
theorem passes_edit_page (config : Config) (t : Text) :
    Conversion.htmlJsx.run config t = .ok (Edit.applyAll (pageEdits renamings 0 t) 0 t) ∧
      replaceStyle (renameAttribute "class" "className" (renameAttribute "for" "htmlFor" t)) =
        toJsx t := by
  have page : toJsx t = Edit.applyAll (pageEdits renamings 0 t) 0 t :=
    replaceStyle_renameAll separate_renamings 0 t
  have swapped := renameAll_eq_of_perm separate_renamings (List.Perm.swap _ _ _).symm t
  exact ⟨congrArg Except.ok page, congrArg replaceStyle swapped⟩

/-- The attributes inside the value come first, so those behind it keep their names. -/
example :
    toJsx "<p style=\"content: a class=b for=c\" class=d for=e>" =
      "<p style=\x7b\x7bcontent: 'a className=b htmlFor=c'\x7d\x7d class=d for=e>" := by
  decide +kernel

end Snippet.Markup.Html
