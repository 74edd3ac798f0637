import Snippet.Proofs.TypeScript.Declared
import Mathlib.Data.List.Induction

/-!
# Reading types back

Types are compared by their texts, when shapes are looked up and when the elements of an array are
joined. This loses nothing: as long as the names in them are names, types of the same text are the
same type. A text is read from its end, where an array shows its brackets, a union its parenthesis,
and a name or the word of a scalar reaches back to the first character that is no name character.
-/

namespace Snippet.TypeScript

open Naming (IsName isNameChar)

/-! ## Ends of texts -/

/-- A text behind which a name can start: it does not end in a name character. -/
def EndsOutsideName (t : Text) : Prop :=
  ∀ c ∈ t.getLast?, isNameChar c = false

theorem endsOutsideName_nil : EndsOutsideName [] := by
  simp [EndsOutsideName]

theorem endsOutsideName_concat {t : Text} {c : Char} (outside : isNameChar c = false) :
    EndsOutsideName (t ++ [c]) := by
  simpa [EndsOutsideName] using outside

/-- Two runs of name characters at the end of one text, both as long as possible, are the same. -/
theorem append_run_inj {before before' run run' : Text} (outside : EndsOutsideName before)
    (outside' : EndsOutsideName before') (chars : ∀ c ∈ run, isNameChar c = true)
    (chars' : ∀ c ∈ run', isNameChar c = true) (same : before ++ run = before' ++ run') :
    before = before' ∧ run = run' := by
  -- One run is longer by what stands between, which ends what is before the other run.
  rcases List.append_eq_append_iff.1 same with ⟨middle, left, right⟩ | ⟨middle, left, right⟩
  · cases last : middle.getLast? with
    | none =>
      obtain rfl := List.getLast?_eq_none_iff.1 last
      exact ⟨by simp [left], by simp [right]⟩
    | some c =>
      have inRun : c ∈ run := right ▸ List.mem_append_left _ (List.mem_of_getLast? last)
      have atEnd : isNameChar c = false := outside' c (by simp [left, last])
      simp [chars c inRun] at atEnd
  · cases last : middle.getLast? with
    | none =>
      obtain rfl := List.getLast?_eq_none_iff.1 last
      exact ⟨by simp [left], by simp [right]⟩
    | some c =>
      have inRun : c ∈ run' := right ▸ List.mem_append_left _ (List.mem_of_getLast? last)
      have atEnd : isNameChar c = false := outside c (by simp [left, last])
      simp [chars' c inRun] at atEnd

/-! ## Scalars and names -/

def scalars : List TypeExpr :=
  [.null, .boolean, .number, .string]

theorem TypeExpr.Over.array_or_atom {type : TypeExpr} (built : type.Over IsName) :
    (∃ members, type = .array members) ∨
      type ∈ scalars ∨ ∃ name, type = .named name ∧ IsName name := by
  cases built with
  | array => exact Or.inl ⟨_, rfl⟩
  | named known => exact Or.inr (Or.inr ⟨_, rfl, known⟩)
  | null | boolean | number | string => exact Or.inr (Or.inl (by simp [scalars]))

/-- The words of the type language: one for each scalar, and the one for any element. -/
def words : List Text :=
  "any" :: scalars.map TypeExpr.text

theorem text_mem_words {type : TypeExpr} (scalar : type ∈ scalars) : type.text ∈ words :=
  List.mem_cons_of_mem _ (List.mem_map_of_mem scalar)

theorem chars_of_mem_words : ∀ word ∈ words,
    (∀ c ∈ word, isNameChar c = true) ∧ ∀ c ∈ word, c.isLower = true := by
  simp only [← List.all_eq_true]
  decide

theorem ne_word_of_isName {name word : Text} (isName : IsName name) (listed : word ∈ words) :
    name ≠ word := by
  rintro rfl
  obtain ⟨c, member, capital⟩ := isName.distinct
  simp [(chars_of_mem_words name listed).2 c member] at capital

theorem scalars_text_inj {a b : TypeExpr} (inA : a ∈ scalars) (inB : b ∈ scalars)
    (same : a.text = b.text) : a = b := by
  have distinct : (scalars.map TypeExpr.text).Nodup := by decide
  exact List.inj_on_of_nodup_map distinct inA inB same

theorem chars_of_atom {type : TypeExpr}
    (atom : type ∈ scalars ∨ ∃ name, type = .named name ∧ IsName name) :
    (∀ c ∈ type.text, isNameChar c = true) ∧ type.text ≠ [] ∧ type.text ≠ "any" := by
  rcases atom with scalar | ⟨name, rfl, isName⟩
  · refine ⟨(chars_of_mem_words _ (text_mem_words scalar)).1, ?_⟩
    simp only [scalars, List.mem_cons, List.not_mem_nil, or_false] at scalar
    rcases scalar with rfl | rfl | rfl | rfl <;> decide
  · obtain ⟨c, member, _⟩ := isName.distinct
    exact ⟨isName.chars, List.ne_nil_of_mem member,
      ne_word_of_isName isName List.mem_cons_self⟩

theorem atom_text_inj {a b : TypeExpr}
    (atomA : a ∈ scalars ∨ ∃ name, a = .named name ∧ IsName name)
    (atomB : b ∈ scalars ∨ ∃ name, b = .named name ∧ IsName name)
    (same : a.text = b.text) : a = b := by
  -- A scalar and a name are kept apart by the character in the name that no word has.
  rcases atomA with scalarA | ⟨name, rfl, isName⟩
  · rcases atomB with scalarB | ⟨name, rfl, isName⟩
    · exact scalars_text_inj scalarA scalarB same
    · exact absurd same.symm (ne_word_of_isName isName (text_mem_words scalarA))
  · rcases atomB with scalarB | ⟨other, rfl, _⟩
    · exact absurd same (ne_word_of_isName isName (text_mem_words scalarB))
    · exact congrArg TypeExpr.named same

/-! ## Arrays -/

/-- The text of an array type without its brackets. -/
def elementText : List Text → Text
  | [] => "any"
  | [member] => member
  | members => "(" ++ Text.join " | " members ++ ")"

theorem text_array (members : List TypeExpr) :
    (TypeExpr.array members).text = elementText (members.map TypeExpr.text) ++ ['[', ']'] := by
  show TypeExpr.arrayText (TypeExpr.texts members) = _
  rw [TypeExpr.texts_eq_map]
  match members with
  | [] => rfl
  | [_] => rfl
  | _ :: _ :: _ =>
    simp only [List.map_cons, TypeExpr.arrayText, elementText, List.append_assoc]
    rfl

theorem getLast?_array (before : Text) (members : List TypeExpr) :
    (before ++ (TypeExpr.array members).text).getLast? = some ']' := by
  rw [text_array, ← List.append_assoc]
  simp

theorem getLast?_text_ne {type : TypeExpr} (built : type.Over IsName) (before : Text) :
    (before ++ type.text).getLast? ≠ some ')' := by
  rcases built.array_or_atom with ⟨members, rfl⟩ | atom
  · rw [getLast?_array]
    decide
  · intro last
    obtain ⟨chars, filled, _⟩ := chars_of_atom atom
    rw [List.getLast?_append_of_ne_nil _ filled] at last
    exact absurd (chars ')' (List.mem_of_getLast? last)) (by decide)

theorem append_any_ne {type : TypeExpr} (built : type.Over IsName) {before before' : Text}
    (outside : EndsOutsideName before) (outside' : EndsOutsideName before') :
    before ++ "any" ≠ before' ++ type.text := by
  intro same
  rcases built.array_or_atom with ⟨members, rfl⟩ | atom
  · have last := congrArg List.getLast? same
    rw [getLast?_array] at last
    simp at last
  · obtain ⟨chars, _, different⟩ := chars_of_atom atom
    have anyChars := (chars_of_mem_words "any" List.mem_cons_self).1
    exact different (append_run_inj outside outside' anyChars chars same).2.symm

/-! ## Reading from the end -/

/-- A type that can be read at the end of every text, and with it where it starts. -/
def IsReadable (a : TypeExpr) : Prop :=
  ∀ ⦃b : TypeExpr⦄ ⦃before before' : Text⦄, b.Over IsName → EndsOutsideName before →
    EndsOutsideName before' → before ++ a.text = before' ++ b.text → before = before' ∧ a = b

theorem isReadable_of_atom {a : TypeExpr}
    (atomA : a ∈ scalars ∨ ∃ name, a = .named name ∧ IsName name) : IsReadable a := by
  intro b before before' built outside outside' same
  obtain ⟨chars, filled, _⟩ := chars_of_atom atomA
  rcases built.array_or_atom with ⟨members, rfl⟩ | atomB
  -- An array ends in a bracket, and no word or name does.
  · have last := congrArg List.getLast? same
    rw [getLast?_array, List.getLast?_append_of_ne_nil _ filled] at last
    exact absurd (chars ']' (List.mem_of_getLast? last)) (by decide)
  · obtain ⟨front, text⟩ :=
      append_run_inj outside outside' chars (chars_of_atom atomB).1 same
    exact ⟨front, atom_text_inj atomA atomB text⟩

/-- What stands before the last member of a union: the parenthesis and the other members. -/
def unionStart (before : Text) (members : List TypeExpr) : Text :=
  before ++ '(' :: members.flatMap fun member => member.text ++ [' ', '|', ' ']

theorem union_concat (before : Text) (members : List TypeExpr) (last : TypeExpr) :
    before ++ '(' :: Text.join " | " ((members ++ [last]).map TypeExpr.text) =
      unionStart before members ++ last.text := by
  rw [List.map_append, List.map_singleton, Text.join_concat, List.flatMap_map]
  simp [unionStart]

theorem unionStart_nil (before : Text) : unionStart before [] = before ++ ['('] := by
  simp [unionStart]

theorem unionStart_concat (before : Text) (members : List TypeExpr) (last : TypeExpr) :
    unionStart before (members ++ [last]) =
      unionStart before members ++ last.text ++ [' ', '|', ' '] := by
  simp [unionStart]

theorem endsOutsideName_unionStart (before : Text) (members : List TypeExpr) :
    EndsOutsideName (unionStart before members) := by
  rcases List.eq_nil_or_concat' members with rfl | ⟨front, last, rfl⟩
  · rw [unionStart_nil]
    exact endsOutsideName_concat (by decide)
  · rw [unionStart_concat]
    intro c atEnd
    obtain rfl : c = ' ' := by simpa using atEnd.symm
    decide

/-- The members of a union are read from the last one to the first. -/
theorem unionStart_inj {members members' : List TypeExpr} {before before' : Text}
    (readable : ∀ member ∈ members, IsReadable member)
    (built : ∀ member ∈ members', member.Over IsName)
    (same : unionStart before members = unionStart before' members') :
    before = before' ∧ members = members' := by
  induction members using List.reverseRecOn generalizing members' with
  | nil =>
    rcases List.eq_nil_or_concat' members' with rfl | ⟨front', last', rfl⟩
    · rw [unionStart_nil, unionStart_nil] at same
      exact ⟨List.append_cancel_right same, rfl⟩
    · rw [unionStart_nil, unionStart_concat] at same
      have atEnd := congrArg List.getLast? same
      -- The one start ends in the parenthesis and the other in the blank of a separator.
      simp at atEnd
  | append_singleton front last ih =>
    rcases List.eq_nil_or_concat' members' with rfl | ⟨front', last', rfl⟩
    · rw [unionStart_nil, unionStart_concat] at same
      have atEnd := congrArg List.getLast? same
      simp at atEnd
    -- The last members are read first; they end where the separators are.
    · rw [unionStart_concat, unionStart_concat] at same
      obtain ⟨start, rfl⟩ := readable last (by simp) (built last' (by simp))
        (endsOutsideName_unionStart before front) (endsOutsideName_unionStart before' front')
        (List.append_cancel_right same)
      obtain ⟨rfl, rfl⟩ := ih (fun member listed => readable member (by simp [listed]))
        (fun member listed => built member (by simp [listed])) start
      exact ⟨rfl, rfl⟩

theorem append_union_inj {members members' : List TypeExpr} {before before' : Text}
    (filled : members ≠ []) (filled' : members' ≠ [])
    (readable : ∀ member ∈ members, IsReadable member)
    (built : ∀ member ∈ members', member.Over IsName)
    (same : before ++ '(' :: Text.join " | " (members.map TypeExpr.text) =
      before' ++ '(' :: Text.join " | " (members'.map TypeExpr.text)) :
    before = before' ∧ members = members' := by
  obtain ⟨front, last, rfl⟩ := (List.eq_nil_or_concat' members).resolve_left filled
  obtain ⟨front', last', rfl⟩ := (List.eq_nil_or_concat' members').resolve_left filled'
  rw [union_concat, union_concat] at same
  obtain ⟨start, rfl⟩ := readable last (by simp) (built last' (by simp))
    (endsOutsideName_unionStart before front) (endsOutsideName_unionStart before' front') same
  obtain ⟨rfl, rfl⟩ := unionStart_inj (fun member listed => readable member (by simp [listed]))
    (fun member listed => built member (by simp [listed])) start
  exact ⟨rfl, rfl⟩

theorem elementText_union (first second : TypeExpr) (rest : List TypeExpr) :
    elementText ((first :: second :: rest).map TypeExpr.text) =
      '(' :: Text.join " | " ((first :: second :: rest).map TypeExpr.text) ++ [')'] :=
  rfl

theorem getLast?_union (before : Text) (first second : TypeExpr) (rest : List TypeExpr) :
    (before ++ elementText ((first :: second :: rest).map TypeExpr.text)).getLast? = some ')' := by
  rw [elementText_union, ← List.append_assoc, List.getLast?_concat]

/-- What stands before the brackets of an array type can be read, if its members can. No word, no
member and no union is mistaken for another of them. -/
theorem append_elementText_inj {members members' : List TypeExpr} {before before' : Text}
    (readable : ∀ member ∈ members, IsReadable member)
    (built : ∀ member ∈ members, member.Over IsName)
    (built' : ∀ member ∈ members', member.Over IsName)
    (outside : EndsOutsideName before) (outside' : EndsOutsideName before')
    (same : before ++ elementText (members.map TypeExpr.text) =
      before' ++ elementText (members'.map TypeExpr.text)) :
    before = before' ∧ members = members' := by
  -- The last character tells unions from the rest, and no type has the text of the empty array's
  -- element.
  match members, members' with
  | [], [] => exact ⟨List.append_cancel_right same, rfl⟩
  | [], [b] => exact absurd same (append_any_ne (built' b (by simp)) outside outside')
  | [a], [] => exact absurd same.symm (append_any_ne (built a (by simp)) outside' outside)
  | [a], [b] =>
    obtain ⟨front, rfl⟩ := readable a (by simp) (built' b (by simp)) outside outside' same
    exact ⟨front, rfl⟩
  | [], b :: c :: rest =>
    have last := congrArg List.getLast? same
    rw [getLast?_union] at last
    simp [elementText] at last
  | a :: c :: rest, [] =>
    have last := congrArg List.getLast? same
    rw [getLast?_union] at last
    simp [elementText] at last
  | [a], b :: c :: rest =>
    have last := congrArg List.getLast? same
    rw [getLast?_union] at last
    exact absurd last (getLast?_text_ne (built a (by simp)) before)
  | a :: c :: rest, [b] =>
    have last := congrArg List.getLast? same
    rw [getLast?_union] at last
    exact absurd last.symm (getLast?_text_ne (built' b (by simp)) before')
  | a :: c :: rest, b :: d :: rest' =>
    rw [elementText_union, elementText_union, ← List.append_assoc, ← List.append_assoc] at same
    exact append_union_inj (by simp) (by simp) readable built' (List.append_cancel_right same)

theorem isReadable_of_over {a : TypeExpr} (built : a.Over IsName) : IsReadable a := by
  induction built with
  | null | boolean | number | string => exact isReadable_of_atom (Or.inl (by simp [scalars]))
  | named known => exact isReadable_of_atom (Or.inr ⟨_, rfl, known⟩)
  | @array members each ih =>
    intro b before before' overB outside outside' same
    rcases overB.array_or_atom with ⟨members', rfl⟩ | atom
    · cases overB with
      | array each' =>
        rw [text_array, text_array, ← List.append_assoc, ← List.append_assoc] at same
        obtain ⟨front, rfl⟩ := append_elementText_inj ih each each' outside outside'
          (List.append_cancel_right same)
        exact ⟨front, rfl⟩
    -- A name or scalar can be read against an array, which is the same statement turned around.
    · obtain ⟨front, other⟩ := isReadable_of_atom atom (.array each) outside' outside same.symm
      exact ⟨front.symm, other.symm⟩

/-- Types whose names are names have different texts if they are different. -/
theorem text_inj {a b : TypeExpr} (overA : a.Over IsName) (overB : b.Over IsName)
    (same : a.text = b.text) : a = b :=
  (isReadable_of_over overA overB endsOutsideName_nil endsOutsideName_nil
    (congrArg ([] ++ ·) same)).2

/-! ## Shapes -/

theorem mem_elementText {texts : List Text} {c : Char} (member : c ∈ elementText texts) :
    c ∈ "any".toList ∨ c ∈ ['(', ')', ' ', '|'] ∨ ∃ text ∈ texts, c ∈ text := by
  match texts with
  | [] => exact Or.inl member
  | [text] => exact Or.inr (Or.inr ⟨text, by simp, member⟩)
  | first :: second :: rest =>
    rw [elementText, List.mem_append, List.mem_append] at member
    · rcases member with (opening | inside) | closing
      · exact Or.inr (Or.inl (by simp_all))
      · rcases Text.mem_of_mem_join inside with inSeparator | ⟨text, listed, found⟩
        · exact Or.inr (Or.inl (by simp_all; tauto))
        · exact Or.inr (Or.inr ⟨text, listed, found⟩)
      · exact Or.inr (Or.inl (by simp_all))
    · simp
    · simp

theorem mark_of_mem_text {type : TypeExpr} (built : type.Over IsName) {c : Char}
    (member : c ∈ type.text) : isNameChar c = true ∨ c ∈ [' ', '(', ')', '[', ']', '|'] := by
  induction built with
  | null | boolean | number | string =>
    exact Or.inl ((chars_of_atom (Or.inl (by simp [scalars]))).1 c member)
  | named known => exact Or.inl (known.chars c member)
  | @array members each ih =>
    rw [text_array, List.mem_append] at member
    cases member with
    | inl inside =>
      rcases mem_elementText inside with inAny | mark | ⟨text, listed, found⟩
      · exact Or.inl ((chars_of_mem_words "any" List.mem_cons_self).1 c inAny)
      · simp only [List.mem_cons, List.not_mem_nil, or_false] at mark ⊢
        tauto
      · obtain ⟨type, inMembers, rfl⟩ := List.mem_map.1 listed
        exact ih type inMembers found
    | inr bracket =>
      simp only [List.mem_cons, List.not_mem_nil, or_false] at bracket ⊢
      tauto

theorem semicolon_notMem_text {type : TypeExpr} (built : type.Over IsName) : ';' ∉ type.text := by
  intro member
  cases mark_of_mem_text built member with
  | inl char =>
    exact absurd char (by decide)
  | inr mark =>
    exact absurd mark (by decide)

/-- What a signature has for a field: its key and the text of its type. -/
def entryText (field : Text × TypeExpr) : Text :=
  field.1 ++ ":" ++ field.2.text ++ ";"

theorem entryText_append (field : Text × TypeExpr) (rest : Text) :
    entryText field ++ rest = field.1 ++ ':' :: (field.2.text ++ ';' :: rest) := by
  simp [entryText]

/-- Whether no entry of the one list of fields can be taken for the start of a different entry of the
other list. -/
def Distinguishable (fields fields' : Fields) : Prop :=
  ∀ field ∈ fields, ∀ field' ∈ fields',
    Text.StartsAlike (entryText field) (entryText field') → field = field'

theorem signature_eq_flatMap (fields : Fields) : signature fields = fields.flatMap entryText :=
  rfl

theorem signature_inj_of_distinguishable {fields fields' : Fields}
    (apart : Distinguishable fields fields') (same : signature fields = signature fields') :
    fields = fields' := by
  rw [signature_eq_flatMap, signature_eq_flatMap] at same
  exact Text.flatMap_inj (by simp [entryText]) apart same

/-- The first colon ends the key, and the first semicolon behind it ends the type. -/
theorem eq_of_entryText_append {field field' : Text × TypeExpr} {rest rest' : Text}
    (colonFree : ':' ∉ field.1) (colonFree' : ':' ∉ field'.1) (built : field.2.Over IsName)
    (built' : field'.2.Over IsName)
    (same : entryText field ++ rest = entryText field' ++ rest') : field = field' := by
  rw [entryText_append, entryText_append] at same
  obtain ⟨keys, behind⟩ := Text.append_cons_inj colonFree colonFree' same
  obtain ⟨texts, _⟩ := Text.append_cons_inj (semicolon_notMem_text built)
    (semicolon_notMem_text built') behind
  exact Prod.ext keys (text_inj built built' texts)

theorem distinguishable_of_colonFree {fields fields' : Fields}
    (colonFree : ∀ field ∈ fields, ':' ∉ field.1) (colonFree' : ∀ field ∈ fields', ':' ∉ field.1)
    (built : ∀ field ∈ fields, field.2.Over IsName)
    (built' : ∀ field ∈ fields', field.2.Over IsName) : Distinguishable fields fields' := by
  intro field listed field' listed' alike
  obtain ⟨rest, rest', same⟩ := Text.startsAlike_iff_append.1 alike
  exact eq_of_entryText_append (colonFree field listed) (colonFree' field' listed')
    (built field listed) (built' field' listed') same

theorem signature_inj {fields fields' : Fields} (colonFree : ∀ field ∈ fields, ':' ∉ field.1)
    (colonFree' : ∀ field ∈ fields', ':' ∉ field.1)
    (built : ∀ field ∈ fields, field.2.Over IsName)
    (built' : ∀ field ∈ fields', field.2.Over IsName)
    (same : signature fields = signature fields') : fields = fields' :=
  signature_inj_of_distinguishable
    (distinguishable_of_colonFree colonFree colonFree' built built') same

end Snippet.TypeScript
