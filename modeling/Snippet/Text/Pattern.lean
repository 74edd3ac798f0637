import Snippet.Text.Basic
import Snippet.Unicode.Word

/-!
# First matches

Markup and command lines are changed without being parsed: a pattern is tried at every place
from left to right, and the first place where it applies is the one that is changed. A pattern
sees the character before the place, so that it can ask for a word boundary, and answers with what
it found and the text after it.

`Pattern.findFrom_eq_some` says that a match is a cut of the text at a place where the pattern
applies, `Pattern.replaceFirst_of_find_eq_none` that a text without a match stays as it is, and
`contains_iff_infix` what it means that a text occurs in another one.
-/

namespace Snippet.Text

/-- A pattern: given the character before a place, if there is one, and the text from that place
on, what it finds there and what follows the found text. -/
abbrev Pattern (α : Type) := Option Char → Text → Option (α × Text)

/-- A place where a pattern applies: the text before it, what was found, and the text after it. -/
structure Match (α : Type) where
  before : Text
  found : α
  after : Text

namespace Pattern

/-- The first match in a text that follows a given character. -/
def findFrom {α : Type} (p : Pattern α) (previous : Option Char) : Text → Option (Match α)
  -- The end of the text is a place too.
  | [] => (p previous []).map fun hit => ⟨[], hit.1, hit.2⟩
  | c :: rest =>
    match p previous (c :: rest) with
    | some hit => some ⟨[], hit.1, hit.2⟩
    | none => (findFrom p (some c) rest).map fun m => { m with before := c :: m.before }

def find {α : Type} (p : Pattern α) (t : Text) : Option (Match α) :=
  p.findFrom none t

def replaceFirst {α : Type} (p : Pattern α) (replacement : α → Text) (t : Text) : Text :=
  match p.find t with
  | none => t
  | some m => m.before ++ replacement m.found ++ m.after

/-! ## What a match means

A pattern consumes what it finds: the text after the found text is an ending of the text that it was
given. The statements below are about the place of the match only. -/

theorem findFrom_eq_some {α : Type} {p : Pattern α} {previous : Option Char} {t : Text}
    {m : Match α} (first : p.findFrom previous t = some m) :
    ∃ place, t = m.before ++ place ∧
      p (m.before.getLast?.or previous) place = some (m.found, m.after) := by
  induction t generalizing previous m with
  | nil =>
    simp only [findFrom, Option.map_eq_some_iff] at first
    obtain ⟨hit, applies, rfl⟩ := first
    exact ⟨[], by simp, by simpa using applies⟩
  | cons c rest ih =>
    simp only [findFrom] at first
    split at first
    next hit applies =>
      obtain rfl := Option.some.inj first
      exact ⟨c :: rest, by simp, by simpa using applies⟩
    next =>
      obtain ⟨inner, later, rfl⟩ := Option.map_eq_some_iff.1 first
      obtain ⟨place, cut, applies⟩ := ih later
      refine ⟨place, by simp [cut], ?_⟩
      cases last : inner.before.getLast? with
      | none =>
        have empty : inner.before = [] := by simpa using last
        simpa [empty] using applies
      | some d => simpa [List.getLast?_cons, last] using applies

theorem replaceFirst_of_find_eq_none {α : Type} {p : Pattern α} {replacement : α → Text}
    {t : Text} (absent : p.find t = none) : p.replaceFirst replacement t = t := by
  simp [replaceFirst, absent]

/-! ## Patterns -/

def literal (needle : Text) : Pattern Unit :=
  fun _ t => (dropStart? needle t).map fun rest => ((), rest)

/-- Finds a quoted token between two marks of one kind; the value is what stands between them. -/
def quotedBy (mark : Char) : Pattern Text :=
  fun _ t =>
    match t with
    | [] => none
    | c :: rest => if c = mark then splitOnce mark rest else none

def quotation : Pattern Text :=
  fun previous t => (quotedBy '"' previous t).or (quotedBy '\'' previous t)

/-- Finds one blank before what another pattern finds; the value keeps the blank. -/
def afterBlank {α : Type} (p : Pattern α) : Pattern (Char × α) :=
  fun _ t =>
    match t with
    | [] => none
    | c :: rest =>
      if Unicode.isBlank c then (p (some c) rest).map fun hit => ((c, hit.1), hit.2) else none

/-- Finds a run of blanks, as long as possible and not empty, before what another pattern
finds. -/
def afterBlanks {α : Type} (p : Pattern α) : Pattern α :=
  fun _ t =>
    match t with
    | [] => none
    | c :: rest => if Unicode.isBlank c then p (some c) (trimStart rest) else none

def after {α : Type} (start : Text) (p : Pattern α) : Pattern α :=
  fun previous t =>
    (dropStart? start t).bind fun rest => p (start.getLast?.or previous) rest

/-- Finds at the start of a word what another pattern finds: no word character stands before it. -/
def atWordStart {α : Type} (p : Pattern α) : Pattern α :=
  fun previous t => if previous.any Unicode.isWord then none else p previous t

end Pattern

def contains (needle t : Text) : Bool :=
  ((Pattern.literal needle).find t).isSome

theorem isSome_literal_iff {needle t : Text} (previous : Option Char) :
    (Pattern.literal needle previous t).isSome = true ↔ needle <+: t := by
  simp only [Pattern.literal, Option.isSome_map, Option.isSome_iff_exists, dropStart?_eq_some_iff]
  exact ⟨fun ⟨rest, same⟩ => ⟨rest, same.symm⟩, fun ⟨rest, same⟩ => ⟨rest, same.symm⟩⟩

theorem contains_iff_infix {needle t : Text} : contains needle t = true ↔ needle <:+: t := by
  have behind (previous : Option Char) :
      ((Pattern.literal needle).findFrom previous t).isSome = true ↔ needle <:+: t := by
    induction t generalizing previous with
    | nil =>
      rw [Pattern.findFrom, Option.isSome_map, isSome_literal_iff, List.prefix_nil, List.infix_nil]
    | cons c rest ih =>
      rw [List.infix_cons_iff, ← isSome_literal_iff previous, ← ih (some c),
        Pattern.findFrom]
      cases Pattern.literal needle previous (c :: rest) <;> simp
  exact behind none

def replaceFirst (needle replacement t : Text) : Text :=
  (Pattern.literal needle).replaceFirst (fun _ => replacement) t

end Snippet.Text
