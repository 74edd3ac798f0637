import Snippet.Unicode.Blank

/-!
# Texts

A text is the list of its characters. This module holds the operations on texts that every
conversion shares: removing blanks at the ends, cutting a text at separators, and undoing a known
ending. Blanks are those of the Unicode standard throughout.

`infix_trim_iff` says that trimming keeps what has no blanks at its ends, and `trim_concat` that one
more blank at the end makes no difference. `splitOnce_eq_some`, `splitOnce_append_cons`,
`append_cons_inj` and `splitOnce_eq_none_iff` say what a cut at the first separator means,
`splitOnce_concat` that it does not see what is put behind a text, `join_split` that a cut at every
separator loses nothing, `split_append_cons` that it cuts the parts on both sides of a separator on
their own, `join_cons` and `join_concat` what stands behind the first and before the last of several
joined texts, `dropStart?_eq_some_iff` and `dropEnding?_eq_some_iff` what it means to drop a
beginning or an ending, and `length_of_dropEnding?_eq_some` that a dropped ending makes a text
shorter. `flatMap_inj` and `join_map_inj` say when texts that are written one after another can be
told apart.
-/

namespace Snippet

abbrev Text := List Char

instance : Coe String Text := ⟨String.toList⟩

namespace Text

/-! ## Blanks at the ends -/

def isBlank (t : Text) : Bool :=
  t.all Unicode.isBlank

def trimStart (t : Text) : Text :=
  t.dropWhile Unicode.isBlank

def trimEnd (t : Text) : Text :=
  (trimStart t.reverse).reverse

def trim (t : Text) : Text :=
  trimEnd (trimStart t)

/-! ## Cutting at separators -/

def splitOnce (separator : Char) : Text → Option (Text × Text)
  | [] => none
  | c :: rest =>
    if c = separator then some ([], rest)
    else (splitOnce separator rest).map fun parts => (c :: parts.1, parts.2)

/-- The pieces between separators, empty ones included; there is one more than there are
separators. -/
def split (isSeparator : Char → Bool) : Text → List Text
  | [] => [[]]
  | c :: rest =>
    if isSeparator c then [] :: split isSeparator rest
    else
      match split isSeparator rest with
      -- Not met: a split has at least one piece (`split_ne_nil`).
      | [] => [[c]]
      | piece :: pieces => (c :: piece) :: pieces

/-- The maximal runs of characters that are no blanks. -/
def words (t : Text) : List Text :=
  (split Unicode.isBlank t).filter (!·.isEmpty)

def join (separator : Text) (parts : List Text) : Text :=
  separator.intercalate parts

def hasEnding (ending t : Text) : Bool :=
  ending.isSuffixOf t

/-- What stands before a known ending, if the text has that ending. -/
def dropEnding? (ending t : Text) : Option Text :=
  if hasEnding ending t then some (t.take (t.length - ending.length)) else none

/-- A text without a known ending, or the text itself if it ends otherwise. -/
def dropEnding (ending t : Text) : Text :=
  (dropEnding? ending t).getD t

def dropStart? (start t : Text) : Option Text :=
  start.isPrefixOf? t

/-- The ASCII capitals of a text made small; every other character stays. -/
def lowerAscii (t : Text) : Text :=
  t.map Char.toLower

def byteSize (t : Text) : Nat :=
  t.foldr (fun c size => c.utf8Size + size) 0

/-! ## What trimming leaves -/

/-- A text that does not start with a blank occurs as well when the blanks at the start are gone. -/
theorem infix_trimStart_iff {needle t : Text}
    (first : ∀ c ∈ needle.head?, Unicode.isBlank c = false) :
    needle <:+: trimStart t ↔ needle <:+: t := by
  induction t with
  | nil => rfl
  | cons d rest ih =>
    cases blank : Unicode.isBlank d with
    | false => rw [trimStart, List.dropWhile_cons_of_neg (by simp [blank])]
    | true =>
      rw [trimStart, List.dropWhile_cons_of_pos blank, ← trimStart, ih, List.infix_cons_iff]
      constructor
      · exact Or.inr
      · rintro (start | later)
        · cases needle with
          | nil => exact List.nil_infix
          | cons c others =>
            -- An occurrence at the very start would begin with the blank.
            obtain ⟨rfl, _⟩ := List.cons_prefix_cons.1 start
            simp [first c rfl] at blank
        · exact later

theorem infix_trimEnd_iff {needle t : Text}
    (last : ∀ c ∈ needle.getLast?, Unicode.isBlank c = false) :
    needle <:+: trimEnd t ↔ needle <:+: t := by
  have turned : needle.reverse <:+: trimStart t.reverse ↔ needle.reverse <:+: t.reverse :=
    infix_trimStart_iff (by simpa using last)
  rw [trimEnd, ← List.reverse_infix, List.reverse_reverse, turned, List.reverse_infix]

theorem infix_trim_iff {needle t : Text} (first : ∀ c ∈ needle.head?, Unicode.isBlank c = false)
    (last : ∀ c ∈ needle.getLast?, Unicode.isBlank c = false) :
    needle <:+: trim t ↔ needle <:+: t := by
  rw [trim, infix_trimEnd_iff last, infix_trimStart_iff first]

theorem trimEnd_concat {blank : Char} (isBlank : Unicode.isBlank blank = true) (t : Text) :
    trimEnd (t ++ [blank]) = trimEnd t := by
  simp [trimEnd, trimStart, isBlank]

theorem trim_concat {blank : Char} (isBlank : Unicode.isBlank blank = true) (t : Text) :
    trim (t ++ [blank]) = trim t := by
  rw [trim, trim, trimStart, List.dropWhile_append]
  split
  next allBlank =>
    rw [trimStart, List.isEmpty_iff.1 allBlank]
    simp [isBlank]
  next => exact trimEnd_concat isBlank _

theorem trimStart_subset (t : Text) : trimStart t ⊆ t :=
  List.dropWhile_subset _

theorem trimEnd_subset (t : Text) : trimEnd t ⊆ t := by
  intro c member
  rw [trimEnd, List.mem_reverse] at member
  exact List.mem_reverse.1 (trimStart_subset t.reverse member)

/-! ## What the cuts mean -/

theorem splitOnce_eq_some {separator : Char} {t before after : Text}
    (cut : splitOnce separator t = some (before, after)) :
    t = before ++ separator :: after ∧ separator ∉ before := by
  induction t generalizing before with
  | nil => simp [splitOnce] at cut
  | cons c rest ih =>
    by_cases same : c = separator
    · simp only [splitOnce, same, if_true, Option.some.injEq, Prod.mk.injEq] at cut
      obtain ⟨rfl, rfl⟩ := cut
      simp [same]
    · simp only [splitOnce, same, if_false, Option.map_eq_some_iff, Prod.mk.injEq] at cut
      obtain ⟨⟨left, right⟩, found, rfl, rfl⟩ := cut
      obtain ⟨whole, absent⟩ := ih found
      exact ⟨by simp [whole], by simp [absent, Ne.symm same]⟩

theorem splitOnce_append_cons {separator : Char} {before after : Text}
    (absent : separator ∉ before) :
    splitOnce separator (before ++ separator :: after) = some (before, after) := by
  induction before with
  | nil => simp [splitOnce]
  | cons c rest ih =>
    rw [List.mem_cons, not_or] at absent
    simp [splitOnce, Ne.symm absent.1, ih absent.2]

theorem append_cons_inj {separator : Char} {before before' after after' : Text}
    (absent : separator ∉ before) (absent' : separator ∉ before')
    (same : before ++ separator :: after = before' ++ separator :: after') :
    before = before' ∧ after = after' := by
  have cut : splitOnce separator (before ++ separator :: after) = some (before, after) :=
    splitOnce_append_cons absent
  rw [same, splitOnce_append_cons absent', Option.some.injEq, Prod.mk.injEq] at cut
  exact ⟨cut.1.symm, cut.2.symm⟩

theorem splitOnce_eq_none_iff {separator : Char} {t : Text} :
    splitOnce separator t = none ↔ separator ∉ t := by
  induction t with
  | nil => simp [splitOnce]
  | cons c rest ih =>
    by_cases same : c = separator
    · simp [splitOnce, same]
    · simp [splitOnce, same, ih, Ne.symm same]

theorem splitOnce_concat {separator c : Char} (other : c ≠ separator) (t : Text) :
    splitOnce separator (t ++ [c]) =
      (splitOnce separator t).map fun parts => (parts.1, parts.2 ++ [c]) := by
  cases cut : splitOnce separator t with
  | none =>
    rw [splitOnce_eq_none_iff] at cut
    rw [Option.map_none, splitOnce_eq_none_iff]
    simp [cut, Ne.symm other]
  | some parts =>
    obtain ⟨whole, absent⟩ := splitOnce_eq_some cut
    rw [whole, List.append_assoc, List.cons_append, splitOnce_append_cons absent, Option.map_some]

theorem split_ne_nil (isSeparator : Char → Bool) (t : Text) : split isSeparator t ≠ [] := by
  cases t with
  | nil => simp [split]
  | cons c rest =>
    simp only [split]
    split
    · simp
    · split <;> simp

theorem isSeparator_of_mem_split {isSeparator : Char → Bool} {t piece : Text}
    (listed : piece ∈ split isSeparator t) : ∀ c ∈ piece, isSeparator c = false := by
  induction t generalizing piece with
  | nil =>
    obtain rfl := List.mem_singleton.1 listed
    simp
  | cons d rest ih =>
    simp only [split] at listed
    split at listed
    next =>
      cases List.mem_cons.1 listed with
      | inl first => simp [first]
      | inr later => exact ih later
    next inside =>
      have own : isSeparator d = false := by simpa using inside
      split at listed
      next pieces => exact absurd pieces (split_ne_nil isSeparator rest)
      next first others pieces =>
        rw [pieces] at ih
        cases List.mem_cons.1 listed with
        | inl same =>
          subst same
          exact List.forall_mem_cons.2 ⟨own, ih List.mem_cons_self⟩
        | inr later => exact ih (List.mem_cons_of_mem first later)

theorem split_append_cons {isSeparator : Char → Bool} {separator : Char}
    (separates : isSeparator separator = true) (before after : Text) :
    split isSeparator (before ++ separator :: after) =
      split isSeparator before ++ split isSeparator after := by
  induction before with
  | nil => simp [split, separates]
  | cons c rest ih =>
    rw [List.cons_append]
    simp only [split]
    split
    next => rw [ih, List.cons_append]
    next =>
      rw [ih]
      cases pieces : split isSeparator rest with
      | nil => exact absurd pieces (split_ne_nil _ _)
      | cons piece others => rfl

theorem join_split (separator : Char) (t : Text) :
    join [separator] (split (· == separator) t) = t := by
  induction t with
  | nil => simp [split, join, List.intercalate]
  | cons c rest ih =>
    simp only [split]
    cases pieces : split (· == separator) rest with
    | nil => exact absurd pieces (split_ne_nil _ _)
    | cons piece others =>
      rw [pieces] at ih
      split
      next same =>
        have same : c = separator := by simpa using same
        subst same
        simpa [join, List.intercalate, List.intersperse] using ih
      next =>
        cases others <;> simpa [join, List.intercalate, List.intersperse] using ih

theorem join_cons (separator first : Text) (rest : List Text) :
    join separator (first :: rest) = first ++ rest.flatMap (separator ++ ·) := by
  induction rest generalizing first with
  | nil => simp [join]
  | cons next others ih =>
    have tail := ih next
    rw [join] at tail ⊢
    rw [List.intercalate_cons_cons, tail, List.flatMap_cons]
    simp [List.append_assoc]

theorem join_concat (separator : Text) (parts : List Text) (last : Text) :
    join separator (parts ++ [last]) = (parts.flatMap (· ++ separator)) ++ last := by
  induction parts with
  | nil => exact List.intercalate_singleton
  | cons part rest ih =>
    rw [join] at ih ⊢
    rw [List.cons_append, List.intercalate_cons_of_ne_nil (by simp), ih]
    simp [List.append_assoc]

theorem mem_of_mem_join {separator : Text} {parts : List Text} {c : Char}
    (member : c ∈ join separator parts) : c ∈ separator ∨ ∃ part ∈ parts, c ∈ part := by
  induction parts with
  | nil => simp [join] at member
  | cons part rest ih =>
    rw [join] at ih member
    cases rest with
    | nil =>
      rw [List.intercalate_singleton] at member
      exact Or.inr ⟨part, by simp, member⟩
    | cons next others =>
      rw [List.intercalate_cons_cons, List.mem_append, List.mem_append] at member
      rcases member with (first | inSeparator) | later
      · exact Or.inr ⟨part, by simp, first⟩
      · exact Or.inl inSeparator
      · rcases ih later with inSeparator | ⟨other, listed, found⟩
        · exact Or.inl inSeparator
        · exact Or.inr ⟨other, List.mem_cons_of_mem part listed, found⟩

theorem dropStart?_eq_some_iff {start t rest : Text} :
    dropStart? start t = some rest ↔ t = start ++ rest := by
  induction start generalizing t with
  | nil =>
    show some t = some rest ↔ t = rest
    exact Option.some_inj
  | cons c start ih =>
    cases t with
    | nil =>
      show none = some rest ↔ _
      simp
    | cons d t =>
      show (if c == d then dropStart? start t else none) = some rest ↔ _
      by_cases same : c = d
      · simpa [same] using ih
      · simp [same, Ne.symm same]

theorem dropEnding?_eq_some_iff {ending t rest : Text} :
    dropEnding? ending t = some rest ↔ t = rest ++ ending := by
  simp only [dropEnding?, hasEnding, List.isSuffixOf_iff_suffix]
  constructor
  · intro found
    split at found
    next suffix =>
      obtain ⟨start, rfl⟩ := suffix
      simpa using found
    next => contradiction
  · rintro rfl
    simp

theorem dropEnding_subset (ending t : Text) : dropEnding ending t ⊆ t := by
  rw [dropEnding]
  cases found : dropEnding? ending t with
  | none => exact List.Subset.refl t
  | some rest =>
    rw [dropEnding?_eq_some_iff.1 found]
    exact List.subset_append_left rest ending

theorem length_of_dropEnding?_eq_some {ending t rest : Text} (filled : ending ≠ [])
    (found : dropEnding? ending t = some rest) : rest.length < t.length := by
  simp only [dropEnding?, hasEnding, List.isSuffixOf_iff_suffix] at found
  split at found
  next suffix =>
    obtain rfl := Option.some.inj found
    have shorter := suffix.length_le
    have positive := List.length_pos_iff.2 filled
    simp only [List.length_take]
    omega
  next => contradiction

/-! ## Texts one after another -/

/-- Whether two texts can stand at the start of one text: one of them is the beginning of the
other. -/
def StartsAlike (s t : Text) : Prop :=
  s <+: t ∨ t <+: s

instance (s t : Text) : Decidable (StartsAlike s t) :=
  inferInstanceAs (Decidable (s <+: t ∨ t <+: s))

theorem startsAlike_iff_append {s t : Text} :
    StartsAlike s t ↔ ∃ rest rest', s ++ rest = t ++ rest' := by
  constructor
  · rintro (⟨rest, whole⟩ | ⟨rest, whole⟩)
    · exact ⟨rest, [], by simpa using whole⟩
    · exact ⟨[], rest, by simpa using whole.symm⟩
  · rintro ⟨rest, rest', same⟩
    exact List.prefix_or_prefix_of_prefix (List.prefix_append s rest)
      (same ▸ List.prefix_append t rest')

section

variable {α : Type} {write : α → Text} {list list' : List α}

/-- Things written one after another can be read back if different ones never start alike. -/
theorem flatMap_inj (filled : ∀ a, write a ≠ [])
    (apart : ∀ a ∈ list, ∀ b ∈ list', StartsAlike (write a) (write b) → a = b)
    (same : list.flatMap write = list'.flatMap write) : list = list' := by
  induction list generalizing list' with
  | nil =>
    cases list' with
    | nil => rfl
    | cons b rest' => simp [filled] at same
  | cons a rest ih =>
    cases list' with
    | nil => simp [filled] at same
    | cons b rest' =>
      rw [List.flatMap_cons, List.flatMap_cons] at same
      -- Both begin the same text, so the first ones agree, and what follows is the same again.
      obtain rfl := apart a (by simp) b (by simp) (startsAlike_iff_append.2 ⟨_, _, same⟩)
      rw [ih (fun c inRest d inRest' => apart c (by simp [inRest]) d (by simp [inRest']))
        (List.append_cancel_left same)]

theorem join_map_inj {separator : Text} (filled : ∀ a, write a ≠ [])
    (apart : ∀ a ∈ list, ∀ b ∈ list', StartsAlike (write a) (write b) → a = b)
    (same : join separator (list.map write) = join separator (list'.map write)) :
    list = list' := by
  cases list with
  | nil =>
    cases list' with
    | nil => rfl
    | cons b rest' =>
      rw [List.map_cons, join_cons] at same
      simp [join, filled] at same
  | cons a rest =>
    cases list' with
    | nil =>
      rw [List.map_cons, join_cons] at same
      simp [join, filled] at same
    | cons b rest' =>
      rw [List.map_cons, List.map_cons, join_cons, join_cons] at same
      obtain rfl := apart a (by simp) b (by simp) (startsAlike_iff_append.2 ⟨_, _, same⟩)
      -- Behind the first one, all have the separator in front of them.
      have behind := List.append_cancel_left same
      rw [List.flatMap_map, List.flatMap_map] at behind
      rw [flatMap_inj (by simp [filled]) (fun c inRest d inRest' alike => ?_) behind]
      obtain ⟨more, more', together⟩ := startsAlike_iff_append.1 alike
      rw [List.append_assoc, List.append_assoc] at together
      exact apart c (by simp [inRest]) d (by simp [inRest'])
        (startsAlike_iff_append.2 ⟨more, more', List.append_cancel_left together⟩)

end

end Text

end Snippet
