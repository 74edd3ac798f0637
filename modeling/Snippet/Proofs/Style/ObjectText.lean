import Snippet.Proofs.Schema.Items
import Snippet.Proofs.Script.StringLiteral
import Snippet.Proofs.Text.PropertyKey
import Snippet.Style.ObjectLiteral
import Mathlib.Logic.Function.Basic

/-!
# Entries read back from an object literal

An object literal has a line for every entry, and the line shows key and value: the key ends before
the first colon that is not quoted, and the escape of the mark in the value can be undone. So two
literals are the same text only if they have the same entries in the same order, as long as no value
has a line feed.
-/

namespace Snippet

/-! ## Values in single quotation marks -/

namespace Text

open Script (escapeSingle_cons)

/-- No escaped text starts with a mark, since a backslash stands before every mark. -/
theorem escapeSingle_ne_mark (t rest : Text) : escapeSingle t ≠ '\'' :: rest := by
  cases t with
  | nil => simp [escapeSingle]
  | cons c t =>
    rw [escapeSingle_cons]
    by_cases mark : c = '\'' <;> simp [mark]

theorem escapeSingle_eq_nil_iff {t : Text} : escapeSingle t = [] ↔ t = [] := by
  cases t with
  | nil => simp [escapeSingle]
  | cons c t =>
    rw [escapeSingle_cons]
    by_cases mark : c = '\'' <;> simp [mark]

theorem escapeSingle_injective : Function.Injective escapeSingle := by
  intro s t same
  induction s generalizing t with
  | nil => exact (escapeSingle_eq_nil_iff.1 same.symm).symm
  | cons c s ih =>
    cases t with
    | nil => exact escapeSingle_eq_nil_iff.1 same
    | cons d t =>
      rw [escapeSingle_cons, escapeSingle_cons] at same
      by_cases mark : c = '\'' <;> by_cases mark' : d = '\''
      · simp only [mark, mark', if_true, List.append_cancel_left_eq] at same
        rw [mark, mark', ih same]
      -- A mark cannot be taken for a backslash with an escaped text behind it.
      · simp only [mark, mark', if_true, if_false, List.cons_append, List.nil_append,
          List.cons.injEq] at same
        exact absurd same.2.symm (escapeSingle_ne_mark t _)
      · simp only [mark, mark', if_true, if_false, List.cons_append, List.nil_append,
          List.cons.injEq] at same
        exact absurd same.2 (escapeSingle_ne_mark s _)
      · simp only [mark, mark', if_false, List.cons_append, List.nil_append, List.cons.injEq] at same
        rw [same.1, ih same.2]

theorem quoteSingle_injective : Function.Injective quoteSingle := by
  intro s t same
  rw [quoteSingle, quoteSingle, List.cons.injEq, List.append_cancel_right_eq] at same
  exact escapeSingle_injective same.2

end Text

namespace Style

/-! ## Lines of entries -/

def entryLine (entry : Text × Text) : Text :=
  "  " ++ entryText entry

theorem entryLine_eq (entry : Text × Text) :
    entryLine entry =
      ' ' :: ' ' :: (Text.propertyKey entry.1 ++ ':' :: ' ' :: Text.quoteSingle entry.2) := by
  simp [entryLine, entryText]

theorem entryLine_injective : Function.Injective entryLine := by
  intro entry other same
  rw [entryLine_eq, entryLine_eq, List.cons.injEq, List.cons.injEq] at same
  obtain ⟨keys, values⟩ := Text.propertyKey_append_inj same.2.2
  exact Prod.ext keys (Text.quoteSingle_injective (List.cons.inj values).2)

theorem newline_notMem_entryLine {entry : Text × Text} (oneLine : '\n' ∉ entry.2) :
    '\n' ∉ entryLine entry := by
  have value : '\n' ∉ Text.quoteSingle entry.2 :=
    (not_congr (Script.mem_quoteSingle_iff (by decide))).2 oneLine
  rw [entryLine_eq]
  simp [Text.newline_notMem_propertyKey, value]

/-! ## Object literals -/

theorem objectLiteral_of_ne_nil {entries : Entries} (filled : entries ≠ []) :
    objectLiteral entries =
      '\x7b' :: '\n' :: (Text.join Schema.itemBreak (entries.map entryLine) ++ ['\n', '\x7d']) := by
  rw [objectLiteral, if_neg (by simpa using filled)]
  simp only [List.append_assoc]
  rfl

theorem objectLiteral_eq_braces_iff {entries : Entries} :
    objectLiteral entries = "\x7b\x7d" ↔ entries = [] := by
  constructor
  · intro braces
    by_contra filled
    rw [objectLiteral_of_ne_nil filled] at braces
    simp at braces
  · rintro rfl
    rfl

/-- The entries of an object literal can be read back, if no value has a line feed. -/
theorem objectLiteral_inj {entries others : Entries} (oneLine : ∀ entry ∈ entries, '\n' ∉ entry.2)
    (oneLine' : ∀ entry ∈ others, '\n' ∉ entry.2)
    (same : objectLiteral entries = objectLiteral others) : entries = others := by
  by_cases empty : entries = []
  · rw [objectLiteral_eq_braces_iff.2 empty] at same
    rw [empty, objectLiteral_eq_braces_iff.1 same.symm]
  by_cases empty' : others = []
  · rw [objectLiteral_eq_braces_iff.2 empty'] at same
    rw [empty', objectLiteral_eq_braces_iff.1 same]
  -- Without line feeds in values, the breaks between the lines are the only ones.
  have plain {entries : Entries} (oneLine : ∀ entry ∈ entries, '\n' ∉ entry.2) :
      ∀ line ∈ entries.map entryLine, ¬ Schema.itemBreak <:+: line := by
    rw [List.forall_mem_map]
    exact fun entry listed =>
      Schema.plain_of_newline_notMem (newline_notMem_entryLine (oneLine entry listed))
  rw [objectLiteral_of_ne_nil empty, objectLiteral_of_ne_nil empty', List.cons.injEq,
    List.cons.injEq, List.append_cancel_right_eq,
    Schema.join_eq_join_iff (by simpa using empty) (by simpa using empty'),
    Schema.flatMap_items_of_plain (plain oneLine),
    Schema.flatMap_items_of_plain (plain oneLine')] at same
  exact entryLine_injective.list_map same.2.2

end Style

end Snippet
