import Mathlib.Data.List.Infix
import Mathlib.Data.List.Pairwise
import Snippet.Text.Pattern

/-!
# Replacements of first matches

A replacement of a first match copies the text up to the match, so it can be followed from the left,
one character at a time. Two replacements of one text by another do not disturb each other if no
occurrence of the one text can overlap what the other replacement takes away or puts there.
-/

namespace Snippet.Text

namespace Pattern

variable {α : Type} {p : Pattern α}

/-- A pattern for which it makes no difference what stands before a place. -/
def LooksAhead (p : Pattern α) : Prop :=
  ∀ previous other t, p previous t = p other t

theorem findFrom_eq (ahead : p.LooksAhead) (previous other : Option Char) (t : Text) :
    p.findFrom previous t = p.findFrom other t := by
  cases t with
  | nil => rw [findFrom, findFrom, ahead previous other]
  | cons c rest => rw [findFrom, findFrom, ahead previous other]

theorem replaceFirst_of_match (replacement : α → Text) {t : Text} {hit : α × Text}
    (applies : p none t = some hit) :
    p.replaceFirst replacement t = replacement hit.1 ++ hit.2 := by
  cases t with
  | nil => simp [replaceFirst, find, findFrom, applies]
  | cons c rest => simp [replaceFirst, find, findFrom, applies]

theorem replaceFirst_cons (ahead : p.LooksAhead) (replacement : α → Text) {c : Char} {rest : Text}
    (missing : p none (c :: rest) = none) :
    p.replaceFirst replacement (c :: rest) = c :: p.replaceFirst replacement rest := by
  -- What is found behind a character does not depend on it.
  have later : p.find (c :: rest) = (p.find rest).map fun m => { m with before := c :: m.before } := by
    rw [find, findFrom, missing, findFrom_eq ahead (some c) none, find]
  rw [replaceFirst, later, replaceFirst]
  cases p.find rest with
  | none => rfl
  | some m => rfl

theorem looksAhead_literal (needle : Text) : (literal needle).LooksAhead :=
  fun _ _ _ => rfl

theorem looksAhead_afterBlank (p : Pattern α) : (afterBlank p).LooksAhead :=
  fun _ _ _ => rfl

end Pattern

/-! ## Quotations -/

def IsMark (c : Char) : Prop :=
  c = '"' ∨ c = '\''

instance (c : Char) : Decidable (IsMark c) :=
  inferInstanceAs (Decidable (c = '"' ∨ c = '\''))

theorem Pattern.quotation_cons (previous : Option Char) (c : Char) (rest : Text) :
    Pattern.quotation previous (c :: rest) = if IsMark c then splitOnce c rest else none := by
  simp only [Pattern.quotation, Pattern.quotedBy, IsMark]
  by_cases double : c = '"'
  · subst double
    simp
  · by_cases single : c = '\''
    · subst single
      simp
    · simp [double, single]

/-- Two operations that copy a character unless something applies at its place can be exchanged, if
they can be where one of them applies and if neither makes the other one apply anywhere else. -/
theorem comm_of_copies {edit edit' : Text → Text} {Applies Applies' : Text → Prop}
    (copies : ∀ c rest, ¬ Applies (c :: rest) → edit (c :: rest) = c :: edit rest)
    (copies' : ∀ c rest, ¬ Applies' (c :: rest) → edit' (c :: rest) = c :: edit' rest)
    (keeps : ∀ c rest, ¬ Applies (c :: rest) → ¬ Applies' (c :: rest) →
      ¬ Applies (c :: edit' rest) ∧ ¬ Applies' (c :: edit rest))
    (empty : edit' (edit []) = edit (edit' []))
    (here : ∀ t, Applies t → edit' (edit t) = edit (edit' t))
    (here' : ∀ t, Applies' t → edit' (edit t) = edit (edit' t)) (t : Text) :
    edit' (edit t) = edit (edit' t) := by
  induction t with
  | nil => exact empty
  | cons c rest ih =>
    by_cases applies : Applies (c :: rest)
    · exact here _ applies
    · by_cases applies' : Applies' (c :: rest)
      · exact here' _ applies'
      · -- Both copy the character, and neither makes the other one apply at it.
        obtain ⟨still, still'⟩ := keeps c rest applies applies'
        rw [copies c rest applies, copies' c rest applies', copies' c _ still', copies c _ still, ih]

theorem dropStart?_append (start ending t : Text) :
    dropStart? (start ++ ending) (start ++ t) = dropStart? ending t := by
  apply Option.ext
  intro rest
  rw [dropStart?_eq_some_iff, dropStart?_eq_some_iff, List.append_assoc,
    List.append_cancel_left_eq]

/-! ## One text replaced by another -/

theorem literal_append (needle : Text) (previous : Option Char) (behind : Text) :
    Pattern.literal needle previous (needle ++ behind) = some ((), behind) := by
  rw [Pattern.literal, dropStart?_eq_some_iff.2 rfl, Option.map_some]

theorem literal_eq_none_iff {needle t : Text} {previous : Option Char} :
    Pattern.literal needle previous t = none ↔ ¬ needle <+: t := by
  rw [← isSome_literal_iff previous, Bool.not_eq_true, Option.isSome_eq_false_iff,
    Option.isNone_iff_eq_none]

section Literals

variable {needle : Text} (replacement : Text)

theorem replaceFirst_append (needle behind : Text) :
    replaceFirst needle replacement (needle ++ behind) = replacement ++ behind :=
  Pattern.replaceFirst_of_match _ (literal_append needle none behind)

theorem replaceFirst_nil (missing : ¬ needle <+: []) : replaceFirst needle replacement [] = [] := by
  have absent : (Pattern.literal needle).find [] = none := by
    rw [Pattern.find, Pattern.findFrom, literal_eq_none_iff.2 missing, Option.map_none]
  exact Pattern.replaceFirst_of_find_eq_none absent

theorem replaceFirst_cons {c : Char} {rest : Text} (missing : ¬ needle <+: c :: rest) :
    replaceFirst needle replacement (c :: rest) = c :: replaceFirst needle replacement rest :=
  Pattern.replaceFirst_cons (Pattern.looksAhead_literal needle) _ (literal_eq_none_iff.2 missing)

end Literals

/-! ## Texts that do not overlap -/

/-- Whether a text can begin inside another one: it starts like a part at the other one's end. -/
def BeginsInside (s t : Text) : Prop :=
  ∃ part ∈ t.tails, part ≠ [] ∧ StartsAlike s part

instance (s t : Text) : Decidable (BeginsInside s t) :=
  inferInstanceAs (Decidable (∃ part ∈ t.tails, part ≠ [] ∧ StartsAlike s part))

/-- Two texts of which no occurrences overlap. -/
def Apart (s t : Text) : Prop :=
  ¬ BeginsInside s t ∧ ¬ BeginsInside t s

instance (s t : Text) : Decidable (Apart s t) :=
  inferInstanceAs (Decidable (¬ BeginsInside s t ∧ ¬ BeginsInside t s))

theorem Apart.symm {s t : Text} (apart : Apart s t) : Apart t s :=
  ⟨apart.2, apart.1⟩

section Overlaps

variable {s t : Text} {c : Char}

theorem startsAlike_of_isPrefix {behind : Text} (start : s <+: t ++ behind) : StartsAlike s t :=
  List.prefix_or_prefix_of_prefix start (List.prefix_append t behind)

theorem BeginsInside.cons (inside : BeginsInside s t) : BeginsInside s (c :: t) := by
  obtain ⟨part, ending, filled, alike⟩ := inside
  rw [List.mem_tails] at ending
  exact ⟨part, (List.mem_tails _ _).2 (ending.trans (List.suffix_cons c t)), filled, alike⟩

theorem beginsInside_of_startsAlike (filled : t ≠ []) (alike : StartsAlike s t) :
    BeginsInside s t :=
  ⟨t, (List.mem_tails _ _).2 (List.suffix_refl t), filled, alike⟩

theorem replaceFirst_append_of_not_beginsInside {needle : Text} (replacement : Text)
    {copied : Text} (outside : ¬ BeginsInside needle copied) (behind : Text) :
    replaceFirst needle replacement (copied ++ behind) =
      copied ++ replaceFirst needle replacement behind := by
  induction copied with
  | nil => rfl
  | cons c rest ih =>
    have missing : ¬ needle <+: c :: (rest ++ behind) := by
      intro start
      rw [← List.cons_append] at start
      exact outside (beginsInside_of_startsAlike (by simp) (startsAlike_of_isPrefix start))
    rw [List.cons_append, replaceFirst_cons replacement missing,
      ih fun inside => outside inside.cons, List.cons_append]

theorem eq_nil_of_isPrefix_replaceFirst {needle replacement other t : Text}
    (outside : ¬ BeginsInside replacement other) (here : needle <+: t)
    (start : other <+: replaceFirst needle replacement t) : other = [] := by
  obtain ⟨behind, rfl⟩ := here
  rw [replaceFirst_append] at start
  by_contra filled
  exact outside (beginsInside_of_startsAlike filled (startsAlike_of_isPrefix start).symm)

/-- A replacement that cannot begin inside a text does not put this text at the start. -/
theorem isPrefix_of_isPrefix_replaceFirst {needle replacement other : Text}
    (outside : ¬ BeginsInside replacement other) {t : Text}
    (start : other <+: replaceFirst needle replacement t) : other <+: t := by
  induction t generalizing other with
  | nil =>
    -- Only the empty needle occurs here, and the replacement puts its text at the very start.
    by_cases here : needle <+: []
    · rw [eq_nil_of_isPrefix_replaceFirst outside here start]
    · rwa [replaceFirst_nil replacement here] at start
  | cons c rest ih =>
    by_cases here : needle <+: c :: rest
    · rw [eq_nil_of_isPrefix_replaceFirst outside here start]
      exact List.nil_prefix
    · rw [replaceFirst_cons replacement here] at start
      cases other with
      | nil => exact List.nil_prefix
      | cons d others =>
        rw [List.cons_prefix_cons] at start ⊢
        exact ⟨start.1, ih (fun inside => outside inside.cons) start.2⟩

end Overlaps

/-! ## Independent rewrites -/

structure Rewrite where
  needle : Text
  replacement : Text

namespace Rewrite

def apply (r : Rewrite) (t : Text) : Text :=
  replaceFirst r.needle r.replacement t

def Commutes (r r' : Rewrite) : Prop :=
  ∀ t, r'.apply (r.apply t) = r.apply (r'.apply t)

/-- Rewrites of which neither can overlap what the other one takes away or puts there. -/
structure Independent (r r' : Rewrite) : Prop where
  needles : Apart r.needle r'.needle
  first : Apart r.needle r'.replacement
  second : Apart r'.needle r.replacement

instance (r r' : Rewrite) : Decidable (Independent r r') :=
  decidable_of_iff (Apart r.needle r'.needle ∧ Apart r.needle r'.replacement ∧
      Apart r'.needle r.replacement)
    ⟨fun ⟨needles, first, second⟩ => ⟨needles, first, second⟩,
      fun independent => ⟨independent.needles, independent.first, independent.second⟩⟩

namespace Independent

variable {r r' : Rewrite}

theorem symm (independent : Independent r r') : Independent r' r :=
  ⟨independent.needles.symm, independent.second, independent.first⟩

/-- At an occurrence of the one text both orders leave the other rewrite to what follows. -/
theorem apply_comm_of_isPrefix (independent : Independent r r') {t : Text}
    (here : r.needle <+: t) : r'.apply (r.apply t) = r.apply (r'.apply t) := by
  obtain ⟨behind, rfl⟩ := here
  simp only [apply]
  rw [replaceFirst_append,
    replaceFirst_append_of_not_beginsInside _ independent.second.1,
    replaceFirst_append_of_not_beginsInside _ independent.needles.2, replaceFirst_append]

theorem not_isPrefix_apply (independent : Independent r r') {c : Char} {rest : Text}
    (missing : ¬ r.needle <+: c :: rest) (missing' : ¬ r'.needle <+: c :: rest) :
    ¬ r.needle <+: c :: r'.apply rest := by
  intro start
  rw [apply, ← replaceFirst_cons r'.replacement missing'] at start
  exact missing (isPrefix_of_isPrefix_replaceFirst independent.first.2 start)

theorem apply_comm (independent : Independent r r') : Commutes r r' := by
  refine comm_of_copies (fun _ _ missing => replaceFirst_cons _ missing)
    (fun _ _ missing => replaceFirst_cons _ missing) (fun c rest missing missing' => ?_) ?_
    (fun t here => independent.apply_comm_of_isPrefix here)
    (fun t here => (independent.symm.apply_comm_of_isPrefix here).symm)
  · exact ⟨independent.not_isPrefix_apply missing missing',
      independent.symm.not_isPrefix_apply missing' missing⟩
  · by_cases here : r.needle <+: []
    · exact independent.apply_comm_of_isPrefix here
    · by_cases here' : r'.needle <+: []
      · exact (independent.symm.apply_comm_of_isPrefix here').symm
      · simp only [apply, replaceFirst_nil _ here, replaceFirst_nil _ here']

end Independent

theorem foldl_eq_of_perm {rewrites : List Rewrite} (independent : rewrites.Pairwise Independent)
    {edits : List (Text → Text)} (reordered : edits.Perm (rewrites.map apply)) (t : Text) :
    edits.foldl (fun t edit => edit t) t =
      (rewrites.map apply).foldl (fun t edit => edit t) t := by
  -- Rewrites of a list commute pairwise, and each one with itself.
  have : Std.Symm Commutes := ⟨fun _ _ commute t => (commute t).symm⟩
  have commute : ∀ r ∈ rewrites, ∀ r' ∈ rewrites, Commutes r r' := fun r listed r' listed' =>
    (independent.imp Independent.apply_comm).forall_of_forall (fun _ _ _ => rfl) listed listed'
  refine (reordered.symm.foldl_eq' (fun edit listed edit' listed' t => ?_) t).symm
  obtain ⟨r, inList, rfl⟩ := List.mem_map.1 listed
  obtain ⟨r', inList', rfl⟩ := List.mem_map.1 listed'
  exact commute r inList r' inList' t

end Rewrite

end Snippet.Text
