import Snippet.Conversion.Search
import Snippet.Proofs.Text.Words
import Mathlib.Data.List.Basic

/-!
# Results of searches

A longer query leaves a part of what a shorter one inside it leaves. Trimmed queries lie in each
other as the queries do, and so do their lower cases, except that a capital sigma looks at its
neighbours: a query that has one becomes a text with a small sigma of one form or the other, and no
label has either of them. Taking a group out of the menu takes out no conversion, since only empty
groups go.
-/

namespace Snippet

/-! ## Texts in lower case -/

namespace Text

theorem lowerFrom_cons_of_ne {c : Char} (other : c ≠ 'Σ') (before rest : Text) :
    lowerFrom before (c :: rest) = Unicode.lower c ++ lowerFrom (c :: before) rest := by
  rw [lowerFrom, if_neg other]

theorem lowerFrom_sigma (before rest : Text) :
    lowerFrom before ('Σ' :: rest) =
      smallSigma before rest :: lowerFrom ('Σ' :: before) rest := by
  rw [lowerFrom, if_pos rfl, List.singleton_append]

/-- Without a capital sigma the neighbours of a text make no difference. -/
theorem lowerFrom_append_of_notMem {s : Text} (absent : 'Σ' ∉ s) (before rest : Text) :
    lowerFrom before (s ++ rest) =
      s.flatMap Unicode.lower ++ lowerFrom (s.reverse ++ before) rest := by
  induction s generalizing before with
  | nil => rfl
  | cons c s ih =>
    rw [List.mem_cons, not_or] at absent
    rw [List.cons_append, lowerFrom_cons_of_ne (Ne.symm absent.1), ih absent.2, List.flatMap_cons]
    simp

/-- What stands behind is in lower case what it is behind the characters before it. -/
theorem lowerFrom_suffix (before s rest : Text) :
    lowerFrom (s.reverse ++ before) rest <:+ lowerFrom before (s ++ rest) := by
  induction s generalizing before with
  | nil => exact List.suffix_rfl
  | cons c s ih =>
    rw [List.cons_append, lowerFrom, List.reverse_cons, List.append_assoc, List.singleton_append]
    exact (ih (c :: before)).trans (List.suffix_append _ _)

/-- A text that has a small sigma of one of its two forms. -/
def HasSmallSigma (t : Text) : Prop :=
  'σ' ∈ t ∨ 'ς' ∈ t

instance (t : Text) : Decidable (HasSmallSigma t) :=
  inferInstanceAs (Decidable ('σ' ∈ t ∨ 'ς' ∈ t))

theorem HasSmallSigma.of_infix {s t : Text} (sigma : HasSmallSigma s) (inside : s <:+: t) :
    HasSmallSigma t :=
  sigma.imp (fun member => inside.subset member) fun member => inside.subset member

theorem hasSmallSigma_lowerCase {t : Text} (member : 'Σ' ∈ t) : HasSmallSigma (lowerCase t) := by
  obtain ⟨s, rest, rfl⟩ := List.append_of_mem member
  refine HasSmallSigma.of_infix ?_ (lowerFrom_suffix [] s ('Σ' :: rest)).isInfix
  rw [lowerFrom_sigma, smallSigma]
  split
  next => exact Or.inr List.mem_cons_self
  next => exact Or.inl List.mem_cons_self

theorem lowerCase_isInfix {s t : Text} (inside : s <:+: t) (absent : 'Σ' ∉ s) :
    lowerCase s <:+: lowerCase t := by
  obtain ⟨before, behind, rfl⟩ := inside
  have alone : lowerCase s = s.flatMap Unicode.lower := by
    have whole := lowerFrom_append_of_notMem absent [] []
    rwa [List.append_nil, lowerFrom, List.append_nil] at whole
  -- What stands before `s` changes nothing in it, whatever a sigma there becomes.
  have later := lowerFrom_suffix [] before (s ++ behind)
  rw [lowerFrom_append_of_notMem absent, ← alone] at later
  rw [List.append_assoc]
  exact (List.prefix_append (lowerCase s) _).isInfix.trans later.isInfix

/-! ## Trimmed texts -/

theorem trim_isInfix (t : Text) : trim t <:+: t :=
  (trimEnd_isPrefix (trimStart t)).isInfix.trans (List.dropWhile_suffix Unicode.isBlank).isInfix

theorem trim_infix_trim {s t : Text} (inside : s <:+: t) : trim s <:+: trim t :=
  (infix_trim_iff visible_of_mem_head?_trim visible_of_mem_getLast?_trim).2
    ((trim_isInfix s).trans inside)

end Text

/-! ## Conversions found -/

namespace Conversion

theorem hasSmallSigma_menu (c : Conversion) :
    ¬ Text.HasSmallSigma (Text.lowerCase c.label) ∧
      ¬ Text.HasSmallSigma (Text.lowerCase c.category.name) := by
  cases c <;> decide +kernel

theorem isFoundBy_iff {c : Conversion} {needle : Text} :
    c.isFoundBy needle = true ↔
      needle <:+: Text.lowerCase c.label ∨ needle <:+: Text.lowerCase c.category.name := by
  rw [isFoundBy, Bool.or_eq_true, Text.contains_iff_infix, Text.contains_iff_infix]

theorem isFoundBy_of_infix {c : Conversion} {needle longer : Text} (inside : needle <:+: longer)
    (found : c.isFoundBy longer = true) : c.isFoundBy needle = true :=
  isFoundBy_iff.2 ((isFoundBy_iff.1 found).imp inside.trans inside.trans)

theorem not_hasSmallSigma_of_isFoundBy {c : Conversion} {needle : Text}
    (found : c.isFoundBy needle = true) : ¬ Text.HasSmallSigma needle := by
  intro sigma
  obtain ⟨label, category⟩ := hasSmallSigma_menu c
  cases isFoundBy_iff.1 found with
  | inl inLabel => exact label (sigma.of_infix inLabel)
  | inr inName => exact category (sigma.of_infix inName)

theorem isFoundBy_needle_of_infix {c : Conversion} {query longer : Text}
    (inside : query <:+: longer) (found : c.isFoundBy (needle longer) = true) :
    c.isFoundBy (needle query) = true := by
  have trimmed := Text.trim_infix_trim inside
  -- A sigma of the query would be one of the needle, in this form or in the final one.
  have absent : 'Σ' ∉ Text.trim query := by
    intro sigma
    exact not_hasSmallSigma_of_isFoundBy found
      (Text.hasSmallSigma_lowerCase (trimmed.subset sigma))
  exact isFoundBy_of_infix (Text.lowerCase_isInfix trimmed absent) found

/-! ## Groups -/

def listed (groups : List Group) : List Conversion :=
  groups.flatMap (·.conversions)

theorem listed_groups : listed groups = all := by
  decide

theorem listed_filter_filled (groups : List Group) :
    listed (groups.filter fun group => !group.conversions.isEmpty) = listed groups := by
  induction groups with
  | nil => rfl
  | cons group rest ih =>
    rw [listed] at ih
    cases empty : group.conversions.isEmpty with
    | true => simp [listed, ih, List.isEmpty_iff.1 empty]
    | false => simp [listed, empty, ih]

theorem listed_search (query : Text) :
    listed (search query) = all.filter (·.isFoundBy (needle query)) := by
  rw [search, listed_filter_filled, ← listed_groups, listed, listed, List.flatMap_map,
    List.filter_flatMap]

theorem category_search_sublist (query : Text) :
    ((search query).map (·.category)).Sublist Category.all := by
  have kept : (search query).Sublist (groups.map fun group =>
      { group with conversions := group.conversions.filter (·.isFoundBy (needle query)) }) :=
    List.filter_sublist
  have categories := kept.map Group.category
  rwa [List.map_map] at categories

/-- Typing more into a query takes conversions out of its result and brings none in. What a search
lists comes in the order of the menu, in groups that are not empty and stand in the order of the
categories. -/
theorem longer_query_finds_less {query longer : Text} (inside : query <:+: longer) :
    (listed (search longer)).Sublist (listed (search query)) ∧
      (listed (search query)).Sublist all ∧
      ∀ anyQuery, (∀ group ∈ search anyQuery, group.conversions ≠ []) ∧
        ((search anyQuery).map (·.category)).Sublist Category.all := by
  refine ⟨?_, ?_, fun anyQuery => ⟨?_, category_search_sublist anyQuery⟩⟩
  · rw [listed_search, listed_search]
    exact List.monotone_filter_right all fun c => isFoundBy_needle_of_infix inside
  · rw [listed_search]
    exact List.filter_sublist
  · intro group kept
    simpa using (List.mem_filter.1 kept).2

/-- A query that ends in a wide blank, and the same one behind the name of a category: one of the
two conversions that were found is left. -/
theorem category_before_query_narrows :
    let query : Text := "TO J\u3000"
    let longer : Text := "\t Css TO J\u3000"
    query <:+: longer ∧ listed (search query) = [htmlJsx, cssObject] ∧
      listed (search longer) = [cssObject] ∧
      (listed (search longer)).Sublist (listed (search query)) := by
  intro query longer
  have inside : query <:+: longer := ⟨"\t Css ".toList, [], rfl⟩
  exact ⟨inside, by decide +kernel, by decide +kernel, (longer_query_finds_less inside).1⟩

end Conversion

end Snippet
