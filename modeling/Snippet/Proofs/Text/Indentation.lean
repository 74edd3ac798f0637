import Snippet.Proofs.Text.Occurrences
import Snippet.Proofs.Text.Words
import Snippet.Text.Lines

/-!
# Indented texts

A text with a margin in front of its lines holds every text on one line that it held before, and no
other ones. The margin can be taken away again (`unindent_indent`) if the lines of the text can be
seen in it: no carriage return is dropped at the end of a line, every line is empty or has a
character that is no blank, and the last line is not empty (`HasPlainLines`). An edit that stays on
one line leaves the other lines as they are, so it leaves a text with plain lines one with plain
lines.
-/

namespace Snippet.Text

/-! ## Lines -/

theorem dropReturn_cases (line : Text) :
    dropReturn line = line ∨ line = dropReturn line ++ ['\r'] := by
  rw [dropReturn, dropEnding]
  cases found : dropEnding? ['\r'] line with
  | none => exact Or.inl rfl
  | some rest => exact Or.inr (dropEnding?_eq_some_iff.1 found)

theorem finishLines_cons (piece next : Text) (rest : List Text) :
    finishLines (piece :: next :: rest) = dropReturn piece :: finishLines (next :: rest) :=
  rfl

section Holding

variable {needle : Text} (filled : needle ≠ []) (noReturn : '\r' ∉ needle)

include filled noReturn

theorem infix_dropReturn_iff (line : Text) : needle <:+: dropReturn line ↔ needle <:+: line := by
  rcases dropReturn_cases line with same | same
  · rw [same]
  · conv_rhs => rw [same]
    rw [infix_append_cons_iff noReturn, List.infix_nil, or_iff_left filled]

theorem exists_infix_finishLines_iff (pieces : List Text) :
    (∃ line ∈ finishLines pieces, needle <:+: line) ↔ ∃ piece ∈ pieces, needle <:+: piece := by
  induction pieces with
  | nil => simp [finishLines]
  | cons piece rest ih =>
    cases rest with
    | nil =>
      rw [finishLines]
      split
      next empty =>
        obtain rfl := List.isEmpty_iff.1 empty
        simp [filled]
      next => rfl
    | cons next others =>
      rw [finishLines_cons, List.exists_mem_cons_iff, List.exists_mem_cons_iff, ih,
        infix_dropReturn_iff filled noReturn]

theorem exists_infix_lines_iff (oneLine : '\n' ∉ needle) (t : Text) :
    (∃ line ∈ lines t, needle <:+: line) ↔ needle <:+: t := by
  rw [lines, exists_infix_finishLines_iff filled noReturn, exists_infix_split_iff filled oneLine]

end Holding

/-! ## Margins -/

section Margin

variable {margin : Text} (blank : isBlank margin = true)

include blank

theorem trimStart_append_of_isBlank (t : Text) : trimStart (margin ++ t) = trimStart t := by
  rw [trimStart, List.dropWhile_append_of_pos (List.all_eq_true.1 blank), trimStart]

variable {needle : Text}
  (visibleStart : ∃ c, needle.head? = some c ∧ Unicode.isBlank c = false)

include visibleStart

theorem infix_indentLine_iff (line : Text) :
    needle <:+: indentLine margin line ↔ needle <:+: line := by
  obtain ⟨c, start, visible⟩ := visibleStart
  have first : ∀ d ∈ needle.head?, Unicode.isBlank d = false := by
    rw [start]
    rintro d ⟨⟩
    exact visible
  have present : c ∈ needle := List.mem_of_head? start
  rw [indentLine]
  split
  next allBlank =>
    -- A blank line is left out, and what starts with a visible character does not occur in it.
    have hidden : c ∉ line := by
      intro inside
      have isBlank := List.all_eq_true.1 allBlank c inside
      simp [visible] at isBlank
    exact iff_of_false (not_infix_of_notMem present List.not_mem_nil)
      (not_infix_of_notMem present hidden)
  next =>
    rw [← infix_trimStart_iff first, trimStart_append_of_isBlank blank, infix_trimStart_iff first]

/-- A text on one line that starts with a visible character occurs in an indented text exactly if it
occurred before. -/
theorem infix_indent_iff (oneLine : '\n' ∉ needle) (noReturn : '\r' ∉ needle) (t : Text) :
    needle <:+: indent margin t ↔ needle <:+: t := by
  have filled : needle ≠ [] := by
    obtain ⟨c, start, _⟩ := visibleStart
    exact List.ne_nil_of_mem (List.mem_of_head? start)
  rw [indent, infix_join_iff filled oneLine, ← exists_infix_lines_iff filled noReturn oneLine]
  simp only [List.mem_map, exists_exists_and_eq_and, infix_indentLine_iff blank visibleStart]

end Margin

/-! ## Lines that can be seen -/

/-- Whether a line is empty or has a character that is no blank. -/
def IsPlainLine (line : Text) : Prop :=
  isBlank line = true → line = []

instance (line : Text) : Decidable (IsPlainLine line) :=
  inferInstanceAs (Decidable (isBlank line = true → line = []))

/-- Whether all that indenting does to a text can be seen: the text has no carriage return, its
lines are empty or not blank, and its last character is no blank. -/
structure HasPlainLines (t : Text) : Prop where
  noReturn : '\r' ∉ t
  lines : ∀ line ∈ split (· == '\n') t, IsPlainLine line
  visibleEnd : ∃ c, t.getLast? = some c ∧ Unicode.isBlank c = false

theorem dropReturn_eq_self {line : Text} (noReturn : '\r' ∉ line) : dropReturn line = line := by
  rcases dropReturn_cases line with same | same
  · exact same
  · rw [same] at noReturn
    simp at noReturn

theorem finishLines_eq_self {pieces : List Text} (noReturn : ∀ piece ∈ pieces, '\r' ∉ piece)
    (ended : pieces.getLast? ≠ some []) : finishLines pieces = pieces := by
  induction pieces with
  | nil => rfl
  | cons piece rest ih =>
    obtain ⟨here, there⟩ := List.forall_mem_cons.1 noReturn
    cases rest with
    | nil =>
      rw [finishLines, if_neg]
      -- Only an empty last piece would be dropped.
      rintro empty
      obtain rfl := List.isEmpty_iff.1 empty
      simp at ended
    | cons next others =>
      rw [List.getLast?_cons_cons] at ended
      rw [finishLines_cons, dropReturn_eq_self here, ih there ended]

theorem infix_of_mem_split {separator : Char} {piece t : Text}
    (listed : piece ∈ split (· == separator) t) : piece <:+: t := by
  by_cases filled : piece = []
  · rw [filled]
    exact List.nil_infix
  · have absent : separator ∉ piece := by
      intro inside
      simpa using isSeparator_of_mem_split listed separator inside
    exact (exists_infix_split_iff filled absent).1 ⟨piece, listed, List.infix_refl piece⟩

section VisibleEnd

variable {t : Text} (noReturn : '\r' ∉ t)
  (visibleEnd : ∃ c, t.getLast? = some c ∧ Unicode.isBlank c = false)

include visibleEnd

theorem getLast?_split_ne : (split (· == '\n') t).getLast? ≠ some [] := by
  intro empty
  obtain ⟨front, pieces⟩ := List.getLast?_eq_some_iff.1 empty
  have whole := join_split '\n' t
  rw [pieces, join_concat, List.append_nil] at whole
  obtain ⟨c, ending, visible⟩ := visibleEnd
  -- A text whose last piece is empty is empty itself or ends with a line feed.
  cases front using List.reverseRecOn with
  | nil =>
    rw [← whole] at ending
    simp at ending
  | append_singleton others piece =>
    rw [← whole, List.flatMap_append] at ending
    obtain rfl : '\n' = c := by simpa using ending
    simp [Unicode.isBlank, Unicode.blankRanges, Unicode.Ranges.contains] at visible

include noReturn

theorem lines_eq_split : lines t = split (· == '\n') t := by
  refine finishLines_eq_self (fun piece listed inside => ?_) (getLast?_split_ne visibleEnd)
  exact noReturn ((infix_of_mem_split listed).subset inside)

theorem hasPlainLines_of_lines (plain : ∀ line ∈ lines t, IsPlainLine line) : HasPlainLines t where
  noReturn := noReturn
  lines := by rwa [← lines_eq_split noReturn visibleEnd]
  visibleEnd := visibleEnd

end VisibleEnd

/-! ## Margins that are taken away -/

/-- A text without as many characters at the start of every line as a margin has. -/
def unindent (margin t : Text) : Text :=
  join ['\n'] ((split (· == '\n') t).map fun line => line.drop margin.length)

theorem drop_indentLine (margin : Text) {line : Text} (plain : IsPlainLine line) :
    (indentLine margin line).drop margin.length = line := by
  rw [indentLine]
  split
  next blank => rw [plain blank, List.drop_nil]
  next => exact List.drop_left

theorem newline_notMem_indentLine {margin line : Text} (inMargin : '\n' ∉ margin)
    (inLine : '\n' ∉ line) : '\n' ∉ indentLine margin line := by
  rw [indentLine]
  split
  · simp
  · simp [inMargin, inLine]

theorem unindent_indent {margin t : Text} (oneLine : '\n' ∉ margin) (plain : HasPlainLines t) :
    unindent margin (indent margin t) = t := by
  -- No line has a line feed, so the indented lines are found again.
  have pieces : split (· == '\n') (indent margin t) =
      (split (· == '\n') t).map (indentLine margin) := by
    rw [indent, lines_eq_split plain.noReturn plain.visibleEnd]
    refine split_join (by simp [split_ne_nil]) ?_
    intro line listed
    obtain ⟨piece, inText, rfl⟩ := List.mem_map.1 listed
    refine newline_notMem_indentLine oneLine fun inside => ?_
    simpa using isSeparator_of_mem_split inText '\n' inside
  have undone : ((split (· == '\n') t).map (indentLine margin)).map
      (fun line => line.drop margin.length) = split (· == '\n') t := by
    rw [List.map_map]
    refine (List.map_congr_left fun line listed => ?_).trans (List.map_id _)
    exact drop_indentLine margin (plain.lines line listed)
  rw [unindent, pieces, undone, join_split]

/-! ## Edits on one line -/

/-- Around a place all texts without a separator become part of the same piece. -/
theorem exists_piece_at (separator : Char) (before behind : Text) :
    ∃ front first last back, ∀ part, separator ∉ part →
      split (· == separator) (before ++ (part ++ behind)) =
        front ++ (first ++ (part ++ last)) :: back := by
  induction before with
  | nil =>
    obtain ⟨last, back, pieces⟩ := List.exists_cons_of_ne_nil (split_ne_nil (· == separator) behind)
    refine ⟨[], [], last, back, fun part absent => ?_⟩
    induction part with
    | nil => simpa using pieces
    | cons c rest ih =>
      rw [List.mem_cons, not_or] at absent
      simp only [List.nil_append] at ih
      simp [split, Ne.symm absent.1, ih absent.2]
  | cons c rest ih =>
    obtain ⟨front, first, last, back, shape⟩ := ih
    by_cases same : c = separator
    · refine ⟨[] :: front, first, last, back, fun part absent => ?_⟩
      simp [split, same, shape part absent]
    · cases front with
      | nil =>
        refine ⟨[], c :: first, last, back, fun part absent => ?_⟩
        simp [split, same, shape part absent]
      | cons piece others =>
        refine ⟨(c :: piece) :: others, first, last, back, fun part absent => ?_⟩
        simp [split, same, shape part absent]

/-- A text that may be written into a line: it has no line ending, and its last character is no
blank. -/
structure IsLinePart (part : Text) : Prop where
  oneLine : '\n' ∉ part
  noReturn : '\r' ∉ part
  visibleEnd : ∃ c, part.getLast? = some c ∧ Unicode.isBlank c = false

instance (part : Text) : Decidable (IsLinePart part) :=
  decidable_of_iff ('\n' ∉ part ∧ '\r' ∉ part ∧ part.getLast?.any (!Unicode.isBlank ·) = true)
    ⟨fun ⟨oneLine, noReturn, visible⟩ => ⟨oneLine, noReturn, by simpa [Option.any_eq_true] using visible⟩,
      fun part => ⟨part.oneLine, part.noReturn, by simpa [Option.any_eq_true] using part.visibleEnd⟩⟩

theorem IsLinePart.isPlainLine {part : Text} (isPart : IsLinePart part) (before behind : Text) :
    IsPlainLine (before ++ (part ++ behind)) := by
  obtain ⟨c, ending, visible⟩ := isPart.visibleEnd
  intro blank
  have isBlank := List.all_eq_true.1 blank c (by simp [List.mem_of_getLast? ending])
  simp [visible] at isBlank

theorem HasPlainLines.edit {before removed written behind : Text}
    (plain : HasPlainLines (before ++ removed ++ behind)) (oneLine : '\n' ∉ removed)
    (isPart : IsLinePart written) : HasPlainLines (before ++ written ++ behind) := by
  obtain ⟨front, first, last, back, shape⟩ := exists_piece_at '\n' before behind
  have oldLines := plain.lines
  rw [List.append_assoc, shape removed oneLine] at oldLines
  exact
    { noReturn := by
        have absent := plain.noReturn
        simp only [List.mem_append, not_or] at absent ⊢
        exact ⟨⟨absent.1.1, isPart.noReturn⟩, absent.2⟩
      lines := by
        rw [List.append_assoc, shape written isPart.oneLine]
        intro line listed
        rcases List.mem_append.1 listed with inFront | later
        · exact oldLines line (List.mem_append_left _ inFront)
        · rcases List.mem_cons.1 later with rfl | inBack
          · exact isPart.isPlainLine first last
          · exact oldLines line (by simp [inBack])
      visibleEnd := by
        obtain ⟨c, ending, visible⟩ := isPart.visibleEnd
        -- The end is that of the written part, if nothing stands behind it, or the old one.
        cases behind with
        | nil => exact ⟨c, by simp [ending], visible⟩
        | cons d rest =>
          obtain ⟨e, ending', visible'⟩ := plain.visibleEnd
          exact ⟨e, by simpa using ending', visible'⟩ }

/-- Whether a rewrite leaves the lines of a text as they are, apart from the one it is made in. -/
def Rewrite.StaysOnLine (r : Rewrite) : Prop :=
  '\n' ∉ r.needle ∧ IsLinePart r.replacement

instance (r : Rewrite) : Decidable r.StaysOnLine :=
  inferInstanceAs (Decidable ('\n' ∉ r.needle ∧ IsLinePart r.replacement))

theorem HasPlainLines.apply {r : Rewrite} {t : Text} (stays : r.StaysOnLine)
    (plain : HasPlainLines t) : HasPlainLines (r.apply t) := by
  rcases replaceFirst_cases r.needle r.replacement t with ⟨_, same⟩ | ⟨before, behind, rfl, same⟩
  · rwa [Rewrite.apply, same]
  · rw [Rewrite.apply, same]
    exact plain.edit stays.1 stays.2

theorem HasPlainLines.foldl {rewrites : List Rewrite} {t : Text}
    (stay : ∀ r ∈ rewrites, r.StaysOnLine) (plain : HasPlainLines t) :
    HasPlainLines ((rewrites.map Rewrite.apply).foldl (fun t edit => edit t) t) := by
  induction rewrites generalizing t with
  | nil => exact plain
  | cons r rest ih =>
    obtain ⟨here, there⟩ := List.forall_mem_cons.1 stay
    exact ih there (plain.apply here)

end Snippet.Text
