import Snippet.Conversion.Run
import Snippet.Proofs.OrderedTable
import Snippet.Proofs.Style.ObjectText

/-!
# Entries of style objects

A style sheet becomes an object with an entry for every property that its lines declare, where the
property first stands and with the value that is declared last. How a line ends makes no difference:
a carriage return at its end is a blank, and an empty line declares nothing. So it comes to the same
whether declarations stand on lines or between the semicolons of an inline style; the inline style
keeps declarations that are repeated, and an object made from it drops them.
-/

namespace Snippet.Style

open Text (trimStart_subset trimEnd_subset dropEnding_subset isSeparator_of_mem_split)

/-! ## Declarations on lines -/

namespace Declaration

theorem valueOf_concat {blank : Char} (isBlank : Unicode.isBlank blank = true) (t : Text) :
    valueOf (t ++ [blank]) = valueOf t := by
  rw [valueOf, valueOf, Text.trim_concat isBlank]

/-- A carriage return at the end of a line is a blank behind its declaration. -/
theorem parse?_dropReturn (line : Text) : parse? (Text.dropReturn line) = parse? line := by
  rw [Text.dropReturn, Text.dropEnding]
  cases found : Text.dropEnding? ['\r'] line with
  | none => rfl
  | some rest =>
    -- The return stands behind the colon, if there is one, and ends the value.
    rw [Option.getD_some, Text.dropEnding?_eq_some_iff.1 found, parse?, parse?,
      Text.splitOnce_concat (by decide)]
    cases Text.splitOnce ':' rest with
    | none => rfl
    | some parts =>
      have blank : Unicode.isBlank '\r' = true := by decide
      simp only [Option.map_some, valueOf_concat blank]

theorem filterMap_parse?_finishLines (pieces : List Text) :
    (Text.finishLines pieces).filterMap parse? = pieces.filterMap parse? := by
  fun_induction Text.finishLines pieces with
  | case1 => rfl
  | case2 last empty =>
    rw [List.isEmpty_iff.1 empty]
    rfl
  | case3 last filled => rfl
  | case4 piece pieces _ ih => rw [List.filterMap_cons, List.filterMap_cons, parse?_dropReturn, ih]

/-- The lines of a text declare what the pieces between its line feeds declare. -/
theorem filterMap_parse?_lines (t : Text) :
    (Text.lines t).filterMap parse? = (Text.split (· == '\n') t).filterMap parse? :=
  filterMap_parse?_finishLines _

theorem value_subset {fragment : Text} {d : Declaration} (parsed : parse? fragment = some d) :
    d.value ⊆ fragment := by
  obtain ⟨before, after, rfl, _, _, value, _⟩ := parse?_eq_some parsed
  intro c member
  rw [value, valueOf] at member
  have trimmed := dropEnding_subset _ _ (trimEnd_subset _ member)
  exact List.mem_append_right before
    (List.mem_cons_of_mem ':' (trimStart_subset after (trimEnd_subset _ trimmed)))

end Declaration

/-! ## Style sheets -/

/-- The entries that the lines of a style sheet declare, repeated keys included. -/
def lineEntries (sheet : Text) : List (Text × Text) :=
  ((Text.lines sheet).filterMap Declaration.parse?).map Declaration.entry

theorem lineEntries_eq_nil_iff {sheet : Text} :
    lineEntries sheet = [] ↔ ∀ line ∈ Text.lines sheet, Declaration.parse? line = none := by
  rw [lineEntries, List.map_eq_nil_iff, List.filterMap_eq_nil_iff]

/-- No line feed stands in a value, since it would have ended the line. -/
theorem newline_notMem_of_mem_lineEntries {sheet : Text} {entry : Text × Text}
    (listed : entry ∈ lineEntries sheet) : '\n' ∉ entry.2 := by
  rw [lineEntries, Declaration.filterMap_parse?_lines] at listed
  obtain ⟨d, declared, rfl⟩ := List.mem_map.1 listed
  obtain ⟨piece, inSheet, parsed⟩ := List.mem_filterMap.1 declared
  intro newline
  have inside := Declaration.value_subset parsed newline
  simpa using isSeparator_of_mem_split inSheet '\n' inside

theorem newline_notMem_of_mem_sheetEntries {sheet : Text} :
    ∀ entry ∈ sheetEntries sheet, '\n' ∉ entry.2 :=
  fun _ listed => newline_notMem_of_mem_lineEntries (Table.mem_of_mem_ofEntries listed)

/-- A style sheet is made into an object with the keys that its lines declare, each where it is first
declared and with the value that is declared last. These entries can be read off the output, and
properties whose camel case is the same share one of them. There is no entry exactly if no line is a
declaration. -/
theorem sheet_becomes_object (config : Config) (sheet : Text) :
    ∃ entries : Entries,
      Conversion.cssObject.run config sheet = .ok (objectLiteral entries) ∧
      entries.map Prod.fst = ((lineEntries sheet).map Prod.fst).eraseDups ∧
      (∀ entry ∈ entries, ∃ before after, lineEntries sheet = before ++ entry :: after ∧
        entry.1 ∉ after.map Prod.fst) ∧
      (∀ line ∈ Text.lines sheet, ∀ d ∈ Declaration.parse? line,
        ∃! value, (Naming.camelCase d.property, value) ∈ entries) ∧
      (∀ others : Entries, (∀ entry ∈ others, '\n' ∉ entry.2) →
        Conversion.cssObject.run config sheet = .ok (objectLiteral others) → others = entries) ∧
      (Conversion.cssObject.run config sheet = .ok "\x7b\x7d" ↔
        ∀ line ∈ Text.lines sheet, Declaration.parse? line = none) := by
  have made := Table.isMadeOf_ofEntries (lineEntries sheet)
  have written : Conversion.cssObject.run config sheet = .ok (objectLiteral (sheetEntries sheet)) :=
    rfl
  refine ⟨sheetEntries sheet, written, made.firstPlaces, made.lastValues, ?_, ?_, ?_⟩
  · intro line inSheet d parsed
    have declared : d.entry ∈ lineEntries sheet :=
      List.mem_map_of_mem (List.mem_filterMap.2 ⟨line, inSheet, parsed⟩)
    exact made.existsUnique declared
  · intro others oneLine same
    rw [written, Except.ok.injEq] at same
    exact (objectLiteral_inj newline_notMem_of_mem_sheetEntries oneLine same).symm
  · rw [written, Except.ok.injEq, objectLiteral_eq_braces_iff, ← lineEntries_eq_nil_iff]
    exact Table.ofEntries_eq_nil_iff

/-- Lines that end in different ways, and a property that is declared again in camel case. -/
theorem respelled_property_keeps_place :
    let sheet : Text := "a \x7b\r\n  font-size: 1px;\r\ncolor: red\nfontSize: it's;;\n\x7d\nbad:"
    let output : Text := "\x7b\n  fontSize: 'it\\'s;',\n  color: 'red'\n\x7d"
    ∃ entries : Entries,
      Conversion.cssObject.run {} sheet = .ok (objectLiteral entries) ∧
        objectLiteral entries = output ∧ entries.map Prod.fst = [↑"fontSize", ↑"color"] := by
  intro sheet output
  obtain ⟨entries, written, keys, _⟩ := sheet_becomes_object {} sheet
  have result : toObjectLiteral sheet = output := by decide +kernel
  refine ⟨entries, written, ?_, keys.trans (by decide +kernel)⟩
  rw [← result]
  exact (Except.ok.inj written).symm

/-! ## Inline styles -/

/-- An inline style with a line feed in place of every semicolon. -/
def onLines (style : Text) : Text :=
  style.map fun c => if c = ';' then '\n' else c

theorem split_onLines {style : Text} (oneLine : '\n' ∉ style) :
    Text.split (· == '\n') (onLines style) = Text.split (· == ';') style := by
  induction style with
  | nil => rfl
  | cons c rest ih =>
    -- A line feed of the style itself would be taken for a replaced semicolon.
    rw [List.mem_cons, not_or] at oneLine
    have tail := ih oneLine.2
    rw [onLines] at tail ⊢
    by_cases semicolon : c = ';'
    · simp [Text.split, semicolon, tail]
    · simp [Text.split, semicolon, Ne.symm oneLine.1, tail]

theorem lineEntries_onLines {style : Text} (oneLine : '\n' ∉ style) :
    lineEntries (onLines style) = inlineEntries style := by
  rw [lineEntries, Declaration.filterMap_parse?_lines, split_onLines oneLine, inlineEntries]

def writtenPair (entry : Text × Text) : Text × Text :=
  (Text.propertyKey entry.1, Text.quoteSingle entry.2)

/-- The pairs that an inline style is written as make the object that its declarations make on lines
of their own. -/
theorem inline_and_lines_make_one_object (config : Config) {style : Text} (oneLine : '\n' ∉ style) :
    inlineObject style =
        Text.join ", " ((inlineEntries style).map fun entry =>
          (writtenPair entry).1 ++ ": " ++ (writtenPair entry).2) ∧
      Table.ofEntries (inlineEntries style) = sheetEntries (onLines style) ∧
      Table.ofEntries ((inlineEntries style).map writtenPair) =
        (sheetEntries (onLines style)).map writtenPair ∧
      (∀ entries, Table.IsMadeOf entries (inlineEntries style) ↔
        entries = sheetEntries (onLines style)) ∧
      Conversion.cssObject.run config (onLines style) =
        .ok (objectLiteral (Table.ofEntries (inlineEntries style))) := by
  have agree : Table.ofEntries (inlineEntries style) = sheetEntries (onLines style) := by
    rw [← lineEntries_onLines oneLine]
    rfl
  refine ⟨rfl, agree, ?_, ?_, ?_⟩
  · rw [← agree]
    exact Table.ofEntries_map Text.propertyKey_injective Text.quoteSingle (inlineEntries style)
  · intro entries
    rw [← agree]
    exact Table.isMadeOf_iff
  · rw [agree]
    rfl

/-- An inline style in which a property is declared twice, with carriage returns and colons in it. -/
theorem inline_repetition_shares_place :
    let style : Text := "font-size: 1px;;color:red ;\r; -webkit-box: a:b ;fontSize: it's\r;bad"
    '\n' ∉ style ∧
      inlineObject style =
        "fontSize: '1px', color: 'red', WebkitBox: 'a:b', fontSize: 'it\\'s'".toList ∧
      Conversion.cssObject.run {} (onLines style) =
        .ok ("\x7b\n  fontSize: 'it\\'s',\n  color: 'red',\n  WebkitBox: 'a:b'\n\x7d".toList) ∧
      Table.ofEntries (inlineEntries style) = sheetEntries (onLines style) := by
  intro style
  have oneLine : '\n' ∉ style := by decide
  obtain ⟨_, agree, _, _, written⟩ := inline_and_lines_make_one_object {} oneLine
  exact ⟨oneLine, by decide +kernel, written.trans (congrArg _ (by decide +kernel)), agree⟩

end Snippet.Style
