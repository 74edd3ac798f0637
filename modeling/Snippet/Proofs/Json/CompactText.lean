import Snippet.Json.Printer
import Snippet.Proofs.Json.NumberText
import Snippet.Proofs.Json.StringText
import Snippet.Proofs.Json.Structure

/-!
# Reading compact texts back

The compact text of a value is read as that value, except that a key which is repeated in an object
keeps its first place and takes its last value. This holds for every value that is nested no deeper
than the reader goes and whose numbers are in range; a number out of range is a fault, wherever it
stands.

Behind the text of a value there may stand anything that cannot go on with a number. `readsBack` is
an induction over the value; in an array or an object the induction goes on over what stands behind
the first entry, each of the others after a comma. More fuel than the text has characters is enough.
-/

namespace Snippet.Json

/-! ## Numbers in a value -/

mutual

def numbers : Json → List Number
  | .number n => [n]
  | .array elements => numbersOfElements elements
  | .object members => numbersOfMembers members
  | _ => []

def numbersOfElements : List Json → List Number
  | [] => []
  | element :: rest => numbers element ++ numbersOfElements rest

def numbersOfMembers : List (Text × Json) → List Number
  | [] => []
  | (_, value) :: rest => numbers value ++ numbersOfMembers rest

end

def InRange (value : Json) : Prop :=
  ∀ n ∈ value.numbers, n.InRange

/-! ## Repeated keys -/

mutual

/-- A value as it is read: in every object a repeated key stands once, in its first place and with
its last value. -/
def settled : Json → Json
  | .array elements => .array (settledElements elements)
  | .object members => .object (Table.ofEntries (settledMembers members))
  | value => value

def settledElements : List Json → List Json
  | [] => []
  | element :: rest => settled element :: settledElements rest

def settledMembers : List (Text × Json) → List (Text × Json)
  | [] => []
  | (key, value) :: rest => (key, settled value) :: settledMembers rest

end

theorem isNumber_settled (value : Json) : value.settled.isNumber = value.isNumber := by
  cases value <;> rfl

theorem settledMembers_eq_map (members : List (Text × Json)) :
    settledMembers members = members.map fun member => (member.1, member.2.settled) := by
  induction members with
  | nil => rfl
  | cons member rest ih => rw [settledMembers, ih, List.map_cons]

/-! ## Texts of elements and members -/

/-- What stands behind the first element of an array or the first member of an object: the others,
each after a comma, and the closing bracket. -/
def moreText (close : Char) (others : List Text) : Text :=
  others.flatMap (',' :: ·) ++ [close]

theorem join_concat_close (close : Char) (first : Text) (others : List Text) :
    Text.join [','] (first :: others) ++ [close] = first ++ moreText close others := by
  rw [Text.join_cons, List.append_assoc]
  rfl

theorem moreText_cons (close : Char) (first : Text) (others : List Text) :
    moreText close (first :: others) = ',' :: (first ++ moreText close others) := by
  simp [moreText]

theorem length_moreText_pos (close : Char) (others : List Text) :
    0 < (moreText close others).length := by
  simp [moreText]

theorem length_moreText_le (close : Char) (texts : List Text) :
    (moreText close texts).length ≤ (Text.join [','] texts ++ [close]).length + 1 := by
  cases texts with
  | nil => simp [moreText]
  | cons first others => simp [join_concat_close, moreText_cons]

theorem endsNumber_moreText {close : Char} (ends : EndsNumber [close]) (others : List Text)
    (rest : Text) : EndsNumber (moreText close others ++ rest) := by
  cases others with
  | nil => exact fun c first => ends c first
  | cons text others =>
    rw [moreText_cons]
    rintro c ⟨⟩
    decide

theorem skipSpace_cons {c : Char} (printed : isSpace c = false) (rest : Text) :
    skipSpace (c :: rest) = c :: rest := by
  simp [skipSpace, printed]

theorem isSpace_of_isDigit {c : Char} (isDigit : c.isDigit = true) : isSpace c = false := by
  simp [isSpace, ne_of_isDigit isDigit (d := ' ') (by decide),
    ne_of_isDigit isDigit (d := '\n') (by decide), ne_of_isDigit isDigit (d := '\t') (by decide),
    ne_of_isDigit isDigit (d := '\r') (by decide)]

theorem compact_cons (value : Json) :
    ∃ c rest, compact value = c :: rest ∧ isSpace c = false ∧ c ≠ ']' := by
  match value with
  | .null | .bool true | .bool false | .string _ | .array _ | .object _ =>
    exact ⟨_, _, rfl, by decide, by decide⟩
  | .number n =>
    obtain ⟨c, digits, shape, isDigit, _⟩ := natText_cons n.whole
    show ∃ c rest, n.text = c :: rest ∧ _
    rw [Number.text_eq, Number.magnitudeText, shape]
    cases n.negative with
    | true => exact ⟨_, _, rfl, by decide, by decide⟩
    | false =>
      exact ⟨_, _, rfl, isSpace_of_isDigit isDigit, ne_of_isDigit isDigit (by decide)⟩

/-! ## Reading -/

theorem readWord_self (value : Json) (letters rest : Text) :
    readWord value letters (letters ++ rest) = .ok (value, rest) := by
  induction letters with
  | nil => rfl
  | cons letter letters ih => simp [readWord, ih]

theorem readKey_quote (key rest : Text) :
    readKey (Text.quote key ++ ':' :: rest) = .ok (key, rest) := by
  rw [quote_append, readKey, if_pos rfl, readString_escape]
  rfl

theorem readValue_number (n : Number) (fuel depth : Nat) (rest : Text) :
    readValue (fuel + 1) depth (n.text ++ rest) =
      (readNumber n.negative (n.magnitudeText ++ rest)).map fun (n, rest) => (.number n, rest) := by
  obtain ⟨c, digits, shape, isDigit, _⟩ := natText_cons n.whole
  rw [Number.text_eq, Number.magnitudeText, shape]
  cases n.negative with
  | true =>
    -- The minus is not handed on, a first digit is.
    show readValue (fuel + 1) depth ('-' :: _) = _
    rw [readValue.eq_def]
    simp [skipSpace_cons (show isSpace '-' = false by decide)]
  | false =>
    -- A digit is none of the characters with which the other values start.
    have noMark := ne_of_isDigit isDigit (d := '"') (by decide)
    have noBracket := ne_of_isDigit isDigit (d := '[') (by decide)
    have noBrace := ne_of_isDigit isDigit (d := '\x7b') (by decide)
    have noN := ne_of_isDigit isDigit (d := 'n') (by decide)
    have noT := ne_of_isDigit isDigit (d := 't') (by decide)
    have noF := ne_of_isDigit isDigit (d := 'f') (by decide)
    have noMinus := ne_of_isDigit isDigit (d := '-') (by decide)
    show readValue (fuel + 1) depth (c :: (digits ++ _ ++ rest)) = _
    rw [readValue.eq_def, skipSpace_cons (isSpace_of_isDigit isDigit)]
    simp only [noMark, noBracket, noBrace, noN, noT, noF, noMinus, isDigit, if_false, if_true]
    rfl

theorem readValue_word {value : Json} (word : value = .null ∨ ∃ b, value = .bool b)
    (fuel depth : Nat) (rest : Text) :
    readValue (fuel + 1) depth (compact value ++ rest) = .ok (value, rest) := by
  rw [readValue.eq_def]
  rcases word with rfl | ⟨b, rfl⟩
  · exact readWord_self .null "ull" rest
  · cases b with
    | false => exact readWord_self (.bool false) "alse" rest
    | true => exact readWord_self (.bool true) "rue" rest

theorem readValue_string (s : Text) (fuel depth : Nat) (rest : Text) :
    readValue (fuel + 1) depth (Text.quote s ++ rest) = .ok (.string s, rest) := by
  rw [quote_append, readValue.eq_def]
  show (readString (Text.escape s ++ '"' :: rest)).map _ = _
  rw [readString_escape]
  rfl

theorem readValue_array (fuel depth : Nat) (t : Text) :
    readValue (fuel + 1) (depth + 1) ('[' :: t) =
      (readElements fuel depth t).map fun (elements, rest) => (.array elements, rest) := by
  rw [readValue.eq_def]
  show (readElements fuel depth t >>= _) = _
  cases readElements fuel depth t <;> rfl

theorem readValue_object (fuel depth : Nat) (t : Text) :
    readValue (fuel + 1) (depth + 1) ('\x7b' :: t) =
      (readMembers fuel depth t).map
        fun (members, rest) => (.object (Table.ofEntries members), rest) := by
  rw [readValue.eq_def]
  show (readMembers fuel depth t >>= _) = _
  cases readMembers fuel depth t <;> rfl

/-! ## Elements and members -/

theorem ReadsIf.cons {α β : Type} (entry : α → β) {first : Except Fault (α × Text)} {a : α}
    {t rest : Text} {more : Text → Except Fault (List β × Text)} {others : List β}
    {accepted othersAccepted : Prop} (reads : ReadsIf first (a, t) accepted)
    (goesOn : ReadsIf (more t) (others, rest) othersAccepted) :
    ReadsIf (first >>= fun (a, t) => more t >>= fun (others, rest) =>
      pure (entry a :: others, rest)) (entry a :: others, rest) (accepted ∧ othersAccepted) := by
  apply reads.bind
  cases goesOn with
  | inl read => exact Or.inl ⟨read.1, by simp only [read.2]; rfl⟩
  | inr refused =>
    obtain ⟨fails, fault, refused⟩ := refused
    exact Or.inr ⟨fails, fault, by simp only [refused]; rfl⟩

def ReadsBack (value : Json) : Prop :=
  ∀ (fuel depth : Nat) (rest : Text), (compact value).length < fuel → value.height ≤ depth →
    EndsNumber rest →
    ReadsIf (readValue fuel depth (compact value ++ rest)) (value.settled, rest) value.InRange

theorem readMoreElements_compact (element : Json) (fuel depth : Nat) (t : Text) :
    readMoreElements (fuel + 1) depth (',' :: (compact element ++ t)) =
      (readValue fuel depth (compact element ++ t) >>= fun (element, rest) =>
        readMoreElements fuel depth rest >>= fun (elements, rest) =>
          pure (element :: elements, rest)) := by
  obtain ⟨c, tail, shape, printed, noBracket⟩ := compact_cons element
  rw [shape, List.cons_append, readMoreElements.eq_def, skipSpace_cons (by decide)]
  simp [skipSpace_cons printed, noBracket]

theorem readMoreMembers_quote (key : Text) (fuel depth : Nat) (t : Text) :
    readMoreMembers (fuel + 1) depth (',' :: (Text.quote key ++ ':' :: t)) =
      (readValue fuel depth t >>= fun (value, rest) =>
        readMoreMembers fuel depth rest >>= fun (members, rest) =>
          pure ((key, value) :: members, rest)) := by
  have read := readKey_quote key t
  rw [quote_append] at read ⊢
  rw [readMoreMembers.eq_def, skipSpace_cons (by decide)]
  simp only [skipSpace_cons (show isSpace '"' = false by decide), read]
  rfl

theorem readMoreElements_moreText {elements : List Json}
    (each : ∀ element ∈ elements, ReadsBack element) (fuel depth : Nat) (rest : Text)
    (fuelled : (moreText ']' (compactElements elements)).length ≤ fuel)
    (shallow : heightOfElements elements ≤ depth) :
    ReadsIf (readMoreElements fuel depth (moreText ']' (compactElements elements) ++ rest))
      (settledElements elements, rest) (∀ n ∈ numbersOfElements elements, n.InRange) := by
  induction elements generalizing fuel with
  | nil =>
    obtain ⟨fuel, rfl⟩ : ∃ less, fuel = less + 1 := Nat.exists_eq_add_one.2 fuelled
    rw [readMoreElements.eq_def]
    exact (ReadsIf.ok _).congr (by simp [numbersOfElements])
  | cons element others ih =>
    obtain ⟨here, there⟩ := List.forall_mem_cons.1 each
    rw [compactElements, moreText_cons] at fuelled ⊢
    -- The comma takes one call, and the closing bracket is left when the element has been read.
    simp only [List.length_cons, List.length_append] at fuelled
    obtain ⟨fuel, rfl⟩ : ∃ less, fuel = less + 1 := Nat.exists_eq_add_one.2 (by omega)
    have closed := length_moreText_pos ']' (compactElements others)
    rw [heightOfElements, Nat.max_le] at shallow
    have ends : EndsNumber (moreText ']' (compactElements others) ++ rest) :=
      endsNumber_moreText (by simp [EndsNumber]) _ _
    have first := here fuel depth _ (by omega) shallow.1 ends
    have more := ih there fuel (by omega) shallow.2
    rw [List.cons_append, List.append_assoc, readMoreElements_compact]
    exact (first.cons (fun element => element) more).congr List.forall_mem_append.symm

theorem readMoreMembers_moreText {members : List (Text × Json)}
    (each : ∀ member ∈ members, ReadsBack member.2) (fuel depth : Nat) (rest : Text)
    (fuelled : (moreText '\x7d' (compactMembers members)).length ≤ fuel)
    (shallow : heightOfMembers members ≤ depth) :
    ReadsIf (readMoreMembers fuel depth (moreText '\x7d' (compactMembers members) ++ rest))
      (settledMembers members, rest) (∀ n ∈ numbersOfMembers members, n.InRange) := by
  induction members generalizing fuel with
  | nil =>
    obtain ⟨fuel, rfl⟩ : ∃ less, fuel = less + 1 := Nat.exists_eq_add_one.2 fuelled
    rw [readMoreMembers.eq_def]
    exact (ReadsIf.ok _).congr (by simp [numbersOfMembers])
  | cons member others ih =>
    obtain ⟨key, value⟩ := member
    obtain ⟨(here : ReadsBack value), there⟩ := List.forall_mem_cons.1 each
    rw [compactMembers, moreText_cons] at fuelled ⊢
    simp only [List.length_cons, List.length_append] at fuelled
    obtain ⟨fuel, rfl⟩ : ∃ less, fuel = less + 1 := Nat.exists_eq_add_one.2 (by omega)
    -- As for elements, what is left behind the value is not empty.
    have closed := length_moreText_pos '\x7d' (compactMembers others)
    rw [heightOfMembers, Nat.max_le] at shallow
    have ends : EndsNumber (moreText '\x7d' (compactMembers others) ++ rest) :=
      endsNumber_moreText (by simp [EndsNumber]) _ _
    have first := here fuel depth _ (by omega) shallow.1 ends
    have more := ih there fuel (by omega) shallow.2
    rw [List.cons_append, List.append_assoc, List.append_assoc, List.cons_append,
      readMoreMembers_quote]
    exact (first.cons (fun value => (key, value)) more).congr List.forall_mem_append.symm

/-- Behind the opening bracket the elements are read like others behind a comma. -/
theorem readElements_join (elements : List Json) (fuel depth : Nat) (rest : Text) :
    readElements (fuel + 1) depth
        (Text.join [','] (compactElements elements) ++ [']'] ++ rest) =
      readMoreElements (fuel + 1) depth (moreText ']' (compactElements elements) ++ rest) := by
  -- An empty array has nothing but its bracket; otherwise a comma is put in front.
  cases elements with
  | nil =>
    rw [readElements.eq_def, readMoreElements.eq_def]
    rfl
  | cons element others =>
    obtain ⟨c, tail, shape, printed, noBracket⟩ := compact_cons element
    rw [compactElements, join_concat_close, moreText_cons, List.cons_append, List.append_assoc,
      readMoreElements_compact, shape, List.cons_append, readElements.eq_def,
      skipSpace_cons printed]
    simp only [noBracket, if_false]

theorem readMembers_join (members : List (Text × Json)) (fuel depth : Nat) (rest : Text) :
    readMembers (fuel + 1) depth
        (Text.join [','] (compactMembers members) ++ ['\x7d'] ++ rest) =
      readMoreMembers (fuel + 1) depth (moreText '\x7d' (compactMembers members) ++ rest) := by
  cases members with
  | nil =>
    rw [readMembers.eq_def, readMoreMembers.eq_def]
    rfl
  | cons member others =>
    obtain ⟨key, value⟩ := member
    have read (t : Text) := readKey_quote key t
    rw [compactMembers, join_concat_close, moreText_cons, List.cons_append, List.append_assoc,
      List.append_assoc, List.cons_append, readMoreMembers_quote]
    simp only [quote_append] at read ⊢
    rw [readMembers.eq_def, skipSpace_cons (by decide)]
    simp only [read]
    rfl

/-! ## Documents -/

theorem readsBack_of_fuel {value : Json}
    (reads : ∀ (fuel depth : Nat) (rest : Text), (compact value).length ≤ fuel →
      value.height ≤ depth → EndsNumber rest →
      ReadsIf (readValue (fuel + 1) depth (compact value ++ rest)) (value.settled, rest)
        value.InRange) : ReadsBack value := by
  intro fuel depth rest fuelled shallow ends
  obtain ⟨fuel, rfl⟩ : ∃ less, fuel = less + 1 := Nat.exists_eq_add_one.2 (by omega)
  exact reads fuel depth rest (by omega) shallow ends

theorem readsBack (value : Json) : ReadsBack value := by
  induction value using Json.induction with
  | null =>
    apply readsBack_of_fuel
    intro fuel depth rest fuelled shallow ends
    rw [readValue_word (Or.inl rfl)]
    exact (ReadsIf.ok _).congr (by simp [InRange, numbers])
  | bool value =>
    apply readsBack_of_fuel
    intro fuel depth rest fuelled shallow ends
    rw [readValue_word (Or.inr ⟨value, rfl⟩)]
    exact (ReadsIf.ok _).congr (by simp [InRange, numbers])
  | string s =>
    apply readsBack_of_fuel
    intro fuel depth rest fuelled shallow ends
    rw [compact, readValue_string]
    exact (ReadsIf.ok _).congr (by simp [InRange, numbers])
  | number n =>
    apply readsBack_of_fuel
    intro fuel depth rest fuelled shallow ends
    rw [compact, readValue_number]
    have read := (readNumber_text n ends).map fun (n, rest) => (Json.number n, rest)
    exact read.congr (by simp [InRange, numbers])
  | array elements ih =>
    apply readsBack_of_fuel
    intro fuel depth rest fuelled shallow ends
    rw [height] at shallow
    obtain ⟨depth, rfl⟩ : ∃ less, depth = less + 1 := Nat.exists_eq_add_one.2 (by omega)
    rw [compact, List.length_cons] at fuelled
    obtain ⟨fuel, rfl⟩ : ∃ less, fuel = less + 1 := Nat.exists_eq_add_one.2 (by omega)
    -- The opening bracket pays for the call that goes inside.
    have enough := Nat.le_trans (length_moreText_le ']' (compactElements elements)) fuelled
    rw [compact, List.cons_append, readValue_array, readElements_join]
    exact (readMoreElements_moreText ih (fuel + 1) depth rest enough (by omega)).map _
  | object members ih =>
    apply readsBack_of_fuel
    intro fuel depth rest fuelled shallow ends
    rw [height] at shallow
    obtain ⟨depth, rfl⟩ : ∃ less, depth = less + 1 := Nat.exists_eq_add_one.2 (by omega)
    rw [compact, List.length_cons] at fuelled
    obtain ⟨fuel, rfl⟩ : ∃ less, fuel = less + 1 := Nat.exists_eq_add_one.2 (by omega)
    have enough := Nat.le_trans (length_moreText_le '\x7d' (compactMembers members)) fuelled
    rw [compact, List.cons_append, readValue_object, readMembers_join]
    exact (readMoreMembers_moreText ih (fuel + 1) depth rest enough (by omega)).map _

theorem readDocument_compact {value : Json} (shallow : value.height ≤ depthLimit) :
    ReadsIf (readDocument (compact value)) value.settled value.InRange := by
  have reads := readsBack value (2 * (compact value).length + 2) depthLimit [] (by omega) shallow
    (by simp [EndsNumber])
  rw [List.append_nil] at reads
  cases reads with
  | inl read => exact Or.inl ⟨read.1, by rw [readDocument, read.2]; rfl⟩
  | inr refused =>
    obtain ⟨fails, fault, refused⟩ := refused
    exact Or.inr ⟨fails, fault, by rw [readDocument, refused]; rfl⟩

end Snippet.Json
