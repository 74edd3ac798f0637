import Snippet.Proofs.Script.WrittenLiterals
import Snippet.Proofs.Style.ObjectText
import Snippet.Proofs.Text.FirstMatch

/-!
# The quoted token of a command

A mark that stands again behind its place opens a quotation, which ends where the mark stands again
for the first time; the token of a command is what its first quotation holds. Marks that never stand
again are skipped, whichever of the two kinds they are of and wherever they are. So a command has no
token exactly if it has at most one mark of each kind, and only then its call asks for the
placeholder.
-/

namespace Snippet.Request

open Text (IsMark Pattern splitOnce)

/-- Whether a character opens a quotation: it is a mark, and it stands again in the text behind. -/
def Opens (c : Char) (behind : Text) : Prop :=
  IsMark c ∧ c ∈ behind

instance (c : Char) (behind : Text) : Decidable (Opens c behind) :=
  inferInstanceAs (Decidable (IsMark c ∧ c ∈ behind))

/-- A command cut around the token of its first quotation: the token ends where its mark stands
again, and no character before it opens a quotation. -/
structure IsFirstQuotation (command before : Text) (mark : Char) (token behind : Text) : Prop where
  cut : command = before ++ mark :: (token ++ mark :: behind)
  isMark : IsMark mark
  ends : mark ∉ token
  first : ∀ earlier c later, before = earlier ++ c :: later →
    ¬ Opens c (later ++ mark :: (token ++ mark :: behind))

/-! ## The search -/

section Search

variable {c : Char} {rest token : Text}

theorem quotation_of_not_opens (previous : Option Char) (closed : ¬ Opens c rest) :
    Pattern.quotation previous (c :: rest) = none := by
  rw [Pattern.quotation_cons, ite_eq_right_iff, Text.splitOnce_eq_none_iff]
  exact fun mark inside => closed ⟨mark, inside⟩

theorem firstQuoted_nil : firstQuoted [] = none :=
  rfl

theorem firstQuoted_of_mark (mark : IsMark c) (ends : c ∉ token) (behind : Text) :
    firstQuoted (c :: (token ++ c :: behind)) = some token := by
  have found : Pattern.quotation none (c :: (token ++ c :: behind)) = some (token, behind) := by
    rw [Pattern.quotation_cons, if_pos mark, Text.splitOnce_append_cons ends]
  simp [firstQuoted, Pattern.find, Pattern.findFrom, found]

theorem firstQuoted_of_not_opens (closed : ¬ Opens c rest) :
    firstQuoted (c :: rest) = firstQuoted rest := by
  have ahead : Pattern.quotation.LooksAhead := fun _ _ _ => rfl
  rw [firstQuoted, firstQuoted, Pattern.find, Pattern.find, Pattern.findFrom,
    quotation_of_not_opens none closed, Pattern.findFrom_eq ahead (some c) none, Option.map_map]
  rfl

theorem exists_token_of_opens (opens : Opens c rest) :
    ∃ token behind, rest = token ++ c :: behind ∧ c ∉ token := by
  cases cut : splitOnce c rest with
  | none => exact absurd opens.2 (Text.splitOnce_eq_none_iff.1 cut)
  | some parts => exact ⟨parts.1, parts.2, Text.splitOnce_eq_some cut⟩

end Search

/-! ## Where the token stands -/

namespace IsFirstQuotation

variable {command before token behind : Text} {mark c : Char}

/-- A character that is no opening mark may be added in front. -/
theorem cons (closed : ¬ Opens c command)
    (quotation : IsFirstQuotation command before mark token behind) :
    IsFirstQuotation (c :: command) (c :: before) mark token behind where
  cut := by rw [quotation.cut, List.cons_append]
  isMark := quotation.isMark
  ends := quotation.ends
  first := by
    intro earlier d later split
    cases earlier with
    | nil =>
      obtain ⟨rfl, rfl⟩ := List.cons.inj split
      rwa [← quotation.cut]
    | cons e others => exact quotation.first others d later (List.cons.inj split).2

/-- The first character may be taken away if the quotation begins later. -/
theorem tail (quotation : IsFirstQuotation (c :: command) (c :: before) mark token behind) :
    ¬ Opens c command ∧ IsFirstQuotation command before mark token behind := by
  have cut : command = before ++ mark :: (token ++ mark :: behind) :=
    (List.cons.inj quotation.cut).2
  constructor
  · rw [cut]
    exact quotation.first [] c before rfl
  · exact
      { cut := cut
        isMark := quotation.isMark
        ends := quotation.ends
        first := fun earlier d later split =>
          quotation.first (c :: earlier) d later (by rw [split, List.cons_append]) }

end IsFirstQuotation

theorem firstQuoted_of_isFirstQuotation {command before token behind : Text} {mark : Char}
    (quotation : IsFirstQuotation command before mark token behind) :
    firstQuoted command = some token := by
  induction before generalizing command with
  | nil =>
    rw [quotation.cut]
    exact firstQuoted_of_mark quotation.isMark quotation.ends behind
  | cons c before ih =>
    obtain ⟨rest, rfl⟩ : ∃ rest, command = c :: rest := ⟨_, quotation.cut⟩
    obtain ⟨closed, later⟩ := quotation.tail
    rw [firstQuoted_of_not_opens closed, ih later]

theorem exists_isFirstQuotation {command token : Text} (found : firstQuoted command = some token) :
    ∃ before mark behind, IsFirstQuotation command before mark token behind := by
  induction command with
  | nil => simp [firstQuoted_nil] at found
  | cons c rest ih =>
    by_cases opens : Opens c rest
    · obtain ⟨inside, behind, rfl, ends⟩ := exists_token_of_opens opens
      rw [firstQuoted_of_mark opens.1 ends, Option.some.injEq] at found
      subst found
      exact ⟨[], c, behind, rfl, opens.1, ends, by simp⟩
    · rw [firstQuoted_of_not_opens opens] at found
      obtain ⟨before, mark, behind, quotation⟩ := ih found
      exact ⟨c :: before, mark, behind, quotation.cons opens⟩

/-- A command has no token exactly if no mark stands in it twice. -/
theorem firstQuoted_eq_none_iff {command : Text} :
    firstQuoted command = none ↔ ∀ mark, IsMark mark → command.count mark ≤ 1 := by
  induction command with
  | nil => simp [firstQuoted_nil]
  | cons c rest ih =>
    by_cases opens : Opens c rest
    · obtain ⟨token, behind, rfl, ends⟩ := exists_token_of_opens opens
      rw [firstQuoted_of_mark opens.1 ends]
      simp only [reduceCtorEq, false_iff, not_forall]
      refine ⟨c, opens.1, ?_⟩
      simp
    · rw [firstQuoted_of_not_opens opens, ih]
      -- A character that opens nothing is no mark, or the last one of its kind.
      refine forall_congr' fun mark => imp_congr_right fun isMark => ?_
      by_cases same : c = mark
      · subst same
        have absent : c ∉ rest := fun inside => opens ⟨isMark, inside⟩
        simp [List.count_eq_zero_of_not_mem absent]
      · rw [List.count_cons_of_ne same]

/-! ## The call -/

theorem fetchCall_injective : Function.Injective fetchCall := by
  intro url url' same
  rw [fetchCall_eq, fetchCall_eq] at same
  exact Text.quoteSingle_injective (List.append_cancel_right (List.append_cancel_left same))

theorem run_curlFetch_iff {config : Config} {command url : Text} :
    Conversion.curlFetch.run config command = .ok (fetchCall url) ↔
      (firstQuoted command).getD config.placeholderUrl = url := by
  rw [Conversion.run, toFetch, Except.ok.injEq]
  exact fetchCall_injective.eq_iff

theorem firstQuoted_eq_some_iff_run {command token : Text} :
    firstQuoted command = some token ↔
      ∀ config, Conversion.curlFetch.run config command = .ok (fetchCall token) := by
  simp only [run_curlFetch_iff]
  constructor
  · intro found config
    rw [found, Option.getD_some]
  · intro always
    -- A placeholder that is not the token cannot be what the call asks for.
    have other := always { placeholderUrl := 'x' :: token }
    cases found : firstQuoted command with
    | none => simp [found] at other
    | some url =>
      rw [found, Option.getD_some] at other
      rw [other]

theorem firstQuoted_eq_none_iff_run {command : Text} :
    firstQuoted command = none ↔
      ∀ config, Conversion.curlFetch.run config command =
        .ok (fetchCall config.placeholderUrl) := by
  simp only [run_curlFetch_iff]
  constructor
  · intro missing config
    rw [missing, Option.getD_none]
  · intro always
    cases found : firstQuoted command with
    | none => rfl
    | some url =>
      have other := always { placeholderUrl := 'x' :: url }
      simp [found] at other

/-- A command has no token if it has at most one mark of each kind, and otherwise its token is what
its first quotation holds. The call asks for the placeholder, whichever it is, exactly if there is no
token, and for the token, whatever the placeholder is, if there is one. -/
theorem call_asks_for_first_quotation (command : Text) :
    (firstQuoted command = none ↔ command.count '\'' ≤ 1 ∧ command.count '"' ≤ 1) ∧
    (∀ token, firstQuoted command = some token ↔
      ∃ before mark behind, IsFirstQuotation command before mark token behind) ∧
    (firstQuoted command = none ↔
      ∀ config, Conversion.curlFetch.run config command =
        .ok (fetchCall config.placeholderUrl)) ∧
    ∀ token, firstQuoted command = some token ↔
      ∀ config, Conversion.curlFetch.run config command = .ok (fetchCall token) := by
  refine ⟨?_, fun token => ⟨exists_isFirstQuotation, ?_⟩, firstQuoted_eq_none_iff_run,
    fun token => firstQuoted_eq_some_iff_run⟩
  · rw [firstQuoted_eq_none_iff]
    simp only [IsMark, forall_eq_or_imp, forall_eq]
    exact And.comm
  · rintro ⟨before, mark, behind, quotation⟩
    exact firstQuoted_of_isFirstQuotation quotation

end Snippet.Request
