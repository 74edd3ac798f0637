import Snippet.Proofs.Unicode.UpperCase
import Snippet.Text.Basic

/-!
# Words

A word is a text that is not empty and has no blank in it. Words that are joined with blanks are
found again when the text is cut at its blanks. A text is trimmed if it has no blank at its ends, and
trimming leaves it as it is.
-/

namespace Snippet.Text

/-! ## Cutting at separators -/

theorem split_eq_splitOnP (isSeparator : Char → Bool) (t : Text) :
    split isSeparator t = t.splitOnP isSeparator := by
  induction t with
  | nil => simp [split]
  | cons c rest ih =>
    simp only [split, List.splitOnP_cons_eq_if_modifyHead, ih]
    cases pieces : rest.splitOnP isSeparator with
    | nil => exact absurd pieces (List.splitOnP_ne_nil isSeparator rest)
    | cons piece others => simp

theorem split_eq_singleton {isSeparator : Char → Bool} {t : Text}
    (plain : ∀ c ∈ t, isSeparator c = false) : split isSeparator t = [t] := by
  rw [split_eq_splitOnP, List.splitOnP_eq_singleton plain]

theorem split_join {separator : Char} {parts : List Text} (filled : parts ≠ [])
    (absent : ∀ part ∈ parts, separator ∉ part) :
    split (· == separator) (join [separator] parts) = parts := by
  rw [split_eq_splitOnP, ← List.splitOn_eq_splitOnP, join]
  exact List.splitOn_intercalate separator absent filled

/-! ## Words -/

theorem isBlank_of_visible {c : Char} (above : 0x20 < c.toNat) (below : c.toNat < 0x7F) :
    Unicode.isBlank c = false := by
  simp only [Unicode.isBlank, Unicode.blankRanges, Unicode.Ranges.contains]
  grind

def Unbroken (t : Text) : Prop :=
  ∀ c ∈ t, Unicode.isBlank c = false

instance (t : Text) : Decidable (Unbroken t) :=
  decidable_of_iff (t.all (fun c => !Unicode.isBlank c) = true) (by simp [Unbroken])

theorem Unbroken.append {s t : Text} (first : Unbroken s) (second : Unbroken t) :
    Unbroken (s ++ t) := by
  intro c member
  cases List.mem_append.1 member with
  | inl inFirst => exact first c inFirst
  | inr inSecond => exact second c inSecond

structure IsWord (t : Text) : Prop where
  filled : t ≠ []
  unbroken : Unbroken t

instance (t : Text) : Decidable (IsWord t) :=
  decidable_of_iff (t ≠ [] ∧ Unbroken t)
    ⟨fun ⟨filled, unbroken⟩ => ⟨filled, unbroken⟩, fun word => ⟨word.filled, word.unbroken⟩⟩

namespace IsWord

variable {s t : Text}

theorem append (word : IsWord s) (unbroken : Unbroken t) : IsWord (s ++ t) :=
  ⟨by simp [word.filled], word.unbroken.append unbroken⟩

theorem append_left (unbroken : Unbroken s) (word : IsWord t) : IsWord (s ++ t) :=
  ⟨by simp [word.filled], unbroken.append word.unbroken⟩

theorem blank_notMem (word : IsWord t) {blank : Char} (isBlank : Unicode.isBlank blank = true) :
    blank ∉ t := by
  intro member
  simp [word.unbroken blank member] at isBlank

end IsWord

theorem words_eq_singleton {t : Text} (word : IsWord t) : words t = [t] := by
  rw [words, split_eq_singleton word.unbroken]
  simp [word.filled]

theorem words_append_cons {blank : Char} (isBlank : Unicode.isBlank blank = true) (s t : Text) :
    words (s ++ blank :: t) = words s ++ words t := by
  simp only [words, split_append_cons isBlank, List.filter_append]

theorem words_join {blank : Char} (isBlank : Unicode.isBlank blank = true) {parts : List Text}
    (areWords : ∀ part ∈ parts, IsWord part) : words (join [blank] parts) = parts := by
  induction parts with
  | nil => rfl
  | cons part rest ih =>
    have first := words_eq_singleton (areWords part List.mem_cons_self)
    cases rest with
    | nil => simpa [join] using first
    | cons next others =>
      have tail := ih fun other listed => areWords other (List.mem_cons_of_mem part listed)
      rw [join] at tail ⊢
      rw [List.intercalate_cons_cons, List.append_assoc, List.singleton_append,
        words_append_cons isBlank, first, tail, List.singleton_append]

/-! ## Ends without blanks -/

theorem trimStart_eq_self {t : Text} (first : ∀ c ∈ t.head?, Unicode.isBlank c = false) :
    trimStart t = t := by
  cases t with
  | nil => rfl
  | cons c rest => simp [trimStart, first c rfl]

theorem trimEnd_eq_self {t : Text} (last : ∀ c ∈ t.getLast?, Unicode.isBlank c = false) :
    trimEnd t = t := by
  rw [trimEnd, trimStart_eq_self (by simpa using last), List.reverse_reverse]

theorem visible_of_mem_head?_trimStart {t : Text} :
    ∀ c ∈ (trimStart t).head?, Unicode.isBlank c = false := by
  intro c first
  -- What is left starts where the blanks end.
  have visible := List.head?_dropWhile_not Unicode.isBlank t
  rw [← trimStart, first] at visible
  exact visible

theorem trimEnd_isPrefix (t : Text) : trimEnd t <+: t := by
  rw [trimEnd, ← List.reverse_suffix, List.reverse_reverse]
  exact List.dropWhile_suffix Unicode.isBlank

/-- A beginning of a text without blanks at its start has none there either. -/
theorem visible_of_mem_head?_of_isPrefix {start t : Text} (isStart : start <+: trimStart t) :
    ∀ c ∈ start.head?, Unicode.isBlank c = false := by
  intro c first
  obtain ⟨rest, whole⟩ := isStart
  have opening : (trimStart t).head? = some c := by
    rw [← whole, List.head?_append, Option.mem_def.1 first, Option.some_or]
  exact visible_of_mem_head?_trimStart c opening

theorem visible_of_mem_head?_trim {t : Text} :
    ∀ c ∈ (trim t).head?, Unicode.isBlank c = false :=
  visible_of_mem_head?_of_isPrefix (trimEnd_isPrefix (trimStart t))

theorem visible_of_mem_getLast?_trimEnd {t : Text} :
    ∀ c ∈ (trimEnd t).getLast?, Unicode.isBlank c = false := by
  intro c last
  rw [trimEnd, List.getLast?_reverse] at last
  exact visible_of_mem_head?_trimStart c last

theorem visible_of_mem_getLast?_trim {t : Text} :
    ∀ c ∈ (trim t).getLast?, Unicode.isBlank c = false :=
  visible_of_mem_getLast?_trimEnd

theorem trim_cons {blank : Char} (isBlank : Unicode.isBlank blank = true) (t : Text) :
    trim (blank :: t) = trim t := by
  rw [trim, trimStart, List.dropWhile_cons_of_pos isBlank]
  rfl

structure IsTrimmed (t : Text) : Prop where
  head : ∀ c ∈ t.head?, Unicode.isBlank c = false
  last : ∀ c ∈ t.getLast?, Unicode.isBlank c = false

namespace IsTrimmed

variable {t : Text}

theorem trim_eq_self (isTrimmed : IsTrimmed t) : trim t = t := by
  rw [trim, trimStart_eq_self isTrimmed.head, trimEnd_eq_self isTrimmed.last]

theorem concat (isTrimmed : IsTrimmed t) {c : Char} (visible : Unicode.isBlank c = false) :
    IsTrimmed (t ++ [c]) where
  head d found := by
    cases t with
    | nil =>
      obtain rfl : c = d := by simpa using found
      exact visible
    | cons first rest => exact isTrimmed.head d (by simpa using found)
  last d found := by
    obtain rfl : c = d := by simpa using found
    exact visible

end IsTrimmed

theorem isTrimmed_trim (t : Text) : IsTrimmed (trim t) :=
  ⟨visible_of_mem_head?_trim, visible_of_mem_getLast?_trim⟩

theorem IsWord.isTrimmed {t : Text} (word : IsWord t) : IsTrimmed t where
  head c first := word.unbroken c (List.mem_of_mem_head? first)
  last c last := word.unbroken c (List.mem_of_mem_getLast? last)

/-! ## Small letters -/

theorem toLower_eq_self {c : Char} (noCapital : c.isUpper = false) : c.toLower = c := by
  have outside : ¬ (c.val ≥ 'A'.val ∧ c.val ≤ 'Z'.val) := of_decide_eq_false noCapital
  exact dif_neg outside

theorem lowerAscii_eq_self {t : Text} (noCapital : ∀ c ∈ t, c.isUpper = false) : lowerAscii t = t := by
  have same : ∀ c ∈ t, c.toLower = c := fun c member => toLower_eq_self (noCapital c member)
  exact (List.map_congr_left same).trans (List.map_id t)

/-- Whether a capital and its small letter are treated alike is decided by the ASCII characters. -/
theorem apply_toLower {α : Type} {f : Char → α}
    (alike : ∀ n < 0x80, f (Char.ofNat n).toLower = f (Char.ofNat n)) (c : Char) :
    f c.toLower = f c := by
  by_cases ascii : c.toNat < 0x80
  · exact Unicode.forall_ascii alike c ascii
  · have noCapital : c.isUpper = false := by
      -- There are no capitals beyond ASCII.
      rw [← Bool.not_eq_true, Unicode.isUpper_iff_toNat]
      omega
    rw [toLower_eq_self noCapital]

theorem isBlank_toLower : ∀ c : Char, Unicode.isBlank c.toLower = Unicode.isBlank c :=
  apply_toLower (by decide)

theorem IsWord.lowerAscii {t : Text} (word : IsWord t) : IsWord (lowerAscii t) := by
  refine ⟨by simpa [Text.lowerAscii] using word.filled, fun c member => ?_⟩
  obtain ⟨d, inside, rfl⟩ := List.mem_map.1 member
  rw [isBlank_toLower]
  exact word.unbroken d inside

theorem lowerAscii_join (separator : Text) (parts : List Text) :
    lowerAscii (join separator parts) = join (lowerAscii separator) (parts.map lowerAscii) := by
  cases parts with
  | nil => rfl
  | cons part rest =>
    rw [List.map_cons, join_cons, join_cons]
    simp [lowerAscii, List.map_flatMap, List.flatMap_map]

end Snippet.Text
