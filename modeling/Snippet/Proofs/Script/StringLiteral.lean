import Snippet.Json.Reader
import Snippet.Text.Quoted

/-!
# String literals of scripts

What a literal in single quotation marks means to the language that the output is written for. The
value of a literal is a list of 16-bit code units. A literal ends at the first mark that is not
escaped and has no line feed and no carriage return in it; the two other line terminators have been
allowed since ECMAScript 2019. An escape of digits is a legacy of sloppy mode, except for a zero
without a digit behind it.

Where a literal is written by escaping nothing but the mark, it means the text that it was made from
exactly if there is neither a backslash nor a line break in that text. A backslash is found out by
counting: an escape spends more units than it gives, the escape of a mark just one more, so a reader
that gets the whole text back cannot have come across any other escape.
-/

namespace Snippet.Script

/-! ## Code units -/

/-- The code units of a code point: a pair of surrogates beyond the basic plane. -/
def codePointUnits (n : Nat) : List Nat :=
  if n < 0x10000 then [n]
  else [0xD800 + (n - 0x10000) / 0x400, 0xDC00 + (n - 0x10000) % 0x400]

def units (t : Text) : List Nat :=
  t.flatMap fun c => codePointUnits c.toNat

def isLineTerminator (c : Char) : Bool :=
  c = '\n' || c = '\r' || c = '\u2028' || c = '\u2029'

/-! ## Escapes

Each of these reads what stands behind a backslash and gives the code units that it stands for. -/

def letterUnit? (letter : Char) : Option Nat :=
  if letter = 'b' then some 0x08
  else if letter = 't' then some 0x09
  else if letter = 'n' then some 0x0A
  else if letter = 'v' then some 0x0B
  else if letter = 'f' then some 0x0C
  else if letter = 'r' then some 0x0D
  else if letter = '"' || letter = '\'' || letter = '\\' then some letter.toNat
  else none

def isHexDigit (c : Char) : Bool :=
  (Json.hexValue? c).isSome

def hexRunValue (digits : Text) : Nat :=
  digits.foldl (fun n d => n * 16 + (Json.hexValue? d).getD 0) 0

def readHexEscape : Text → Option (List Nat × Text)
  | a :: b :: rest => do
    let high ← Json.hexValue? a
    let low ← Json.hexValue? b
    pure ([high * 16 + low], rest)
  | _ => none

/-- Reads the digits of a Unicode escape: four of them, or any number between braces that gives a
code point. -/
def readUnicodeEscape : Text → Option (List Nat × Text)
  | [] => none
  | c :: rest =>
    if c = '\x7b' then
      let digits := rest.takeWhile isHexDigit
      let value := hexRunValue digits
      match rest.dropWhile isHexDigit with
      | [] => none
      | close :: behind =>
        if close = '\x7d' ∧ digits ≠ [] ∧ value ≤ 0x10FFFF then
          some (codePointUnits value, behind)
        else none
    else
      match rest with
      | d :: e :: f :: rest => (Json.unit? c d e f).map fun unit => ([unit], rest)
      | _ => none

def readDigitEscape (sloppy : Bool) (d : Char) (rest : Text) : Option (List Nat × Text) :=
  if d = '0' && !rest.head?.any Char.isDigit then some ([0], rest)
  else if !sloppy then none
  else if d = '8' || d = '9' then some ([d.toNat], rest)
  else
    -- An octal escape has up to three digits and a value below 256.
    let more := (rest.take (if d ≤ '3' then 2 else 1)).takeWhile fun c => '0' ≤ c && c ≤ '7'
    some ([Nat.ofDigitChars 8 (d :: more) 0], rest.drop more.length)

/-- Reads what follows a backslash. An escaped end of a line stands for nothing. -/
def readEscape (sloppy : Bool) : Text → Option (List Nat × Text)
  | [] => none
  | c :: rest =>
    match letterUnit? c with
    | some unit => some ([unit], rest)
    | none =>
      if c = '\r' then some ([], (Text.dropStart? ['\n'] rest).getD rest)
      else if isLineTerminator c then some ([], rest)
      else if c = 'x' then readHexEscape rest
      else if c = 'u' then readUnicodeEscape rest
      else if c.isDigit then readDigitEscape sloppy c rest
      else some (codePointUnits c.toNat, rest)

example : readEscape true "201C" = some ([0x81], ['C']) ∧ readEscape false "201C" = none := by
  decide

def readPiece (sloppy : Bool) : Text → Option (List Nat × Text)
  | [] => none
  | c :: rest =>
    if c = '\\' then readEscape sloppy rest
    else if c = '\n' || c = '\r' then none
    else some (codePointUnits c.toNat, rest)

/-! ## What a piece costs -/

/-- How many code units of a value are a mark or a backslash. -/
def marks (us : List Nat) : Nat :=
  us.countP fun u => u == 0x27 || u == 0x5C

theorem units_append (s t : Text) : units (s ++ t) = units s ++ units t :=
  List.flatMap_append

theorem units_cons (c : Char) (t : Text) : units (c :: t) = codePointUnits c.toNat ++ units t :=
  List.flatMap_cons

theorem length_codePointUnits (n : Nat) :
    1 ≤ (codePointUnits n).length ∧ (codePointUnits n).length ≤ 2 := by
  unfold codePointUnits
  split <;> simp

theorem length_le_units (t : Text) : t.length ≤ (units t).length := by
  induction t with
  | nil => simp
  | cons c t ih =>
    have one := (length_codePointUnits c.toNat).1
    rw [units_cons, List.length_cons, List.length_append]
    omega

/-- No more than twice the units of a value, since a unit is a mark or a backslash at most once. -/
theorem cost_le_twice (us : List Nat) : us.length + marks us ≤ 2 * us.length := by
  have all : marks us ≤ us.length := List.countP_le_length
  omega

theorem marks_codePointUnits {c : Char} (noMark : c ≠ '\'') (noBackslash : c ≠ '\\') :
    marks (codePointUnits c.toNat) = 0 := by
  have mark : c.toNat ≠ 0x27 := fun same => noMark (Char.toNat_inj.1 same)
  have backslash : c.toNat ≠ 0x5C := fun same => noBackslash (Char.toNat_inj.1 same)
  unfold codePointUnits
  split
  next => simp [marks, mark, backslash]
  next =>
    simp only [marks, List.countP_eq_zero, List.mem_cons, List.not_mem_nil, or_false,
      Bool.or_eq_true, beq_iff_eq]
    omega

/-- A reading that takes something away and gives no more than that: a mark or a backslash in the
value takes two units. -/
def Spends (t : Text) (us : List Nat) (rest : Text) : Prop :=
  ∃ eaten, eaten ≠ [] ∧ t = eaten ++ rest ∧ us.length + marks us ≤ (units eaten).length

/-- A reading that spends enough together with a backslash and a letter before it. -/
def Paid (t : Text) (us : List Nat) (rest : Text) : Prop :=
  ∃ eaten, t = eaten ++ rest ∧ us.length + marks us ≤ eaten.length + 2

theorem Paid.spends {t rest : Text} {us : List Nat} (paid : Paid t us rest) (letter : Char) :
    Spends ('\\' :: letter :: t) us rest := by
  obtain ⟨eaten, rfl, enough⟩ := paid
  have atLeast := length_le_units ('\\' :: letter :: eaten)
  simp only [List.length_cons] at atLeast
  exact ⟨'\\' :: letter :: eaten, by simp, rfl, by omega⟩

theorem paid_nil (eaten rest : Text) : Paid (eaten ++ rest) [] rest :=
  ⟨eaten, rfl, by simp [marks]⟩

theorem paid_singleton (eaten rest : Text) (u : Nat) : Paid (eaten ++ rest) [u] rest := by
  have cost : [u].length + marks [u] ≤ 2 := cost_le_twice [u]
  exact ⟨eaten, rfl, by omega⟩

theorem readHexEscape_paid {t rest : Text} {us : List Nat}
    (read : readHexEscape t = some (us, rest)) : Paid t us rest := by
  revert read
  fun_cases readHexEscape t with
  | case1 a b behind =>
    intro read
    simp only [Option.bind_eq_bind, Option.bind_eq_some_iff, Option.pure_def, Option.some.injEq,
      Prod.mk.injEq] at read
    obtain ⟨high, _, low, _, rfl, rfl⟩ := read
    exact paid_singleton [a, b] behind _
  | case2 => simp

theorem readUnicodeEscape_paid {t rest : Text} {us : List Nat}
    (read : readUnicodeEscape t = some (us, rest)) : Paid t us rest := by
  revert read
  fun_cases readUnicodeEscape t with
  | case1 | case2 | case4 | case6 => simp
  | case3 inside digits value close behind shape closed =>
    rintro ⟨⟩
    -- Two braces and a digit at least are eaten, and a code point gives at most a pair.
    have whole : digits ++ close :: rest = inside := by
      rw [← shape]
      exact List.takeWhile_append_dropWhile
    have filled : 0 < digits.length := List.length_pos_iff.2 closed.2.1
    have cost := cost_le_twice (codePointUnits value)
    have pair := (length_codePointUnits value).2
    refine ⟨'\x7b' :: (digits ++ [close]), by simp [← whole], ?_⟩
    simp only [List.length_cons, List.length_append, List.length_nil]
    omega
  | case5 c noBrace d e f behind =>
    intro read
    obtain ⟨unit, _, same⟩ := Option.map_eq_some_iff.1 read
    obtain ⟨rfl, rfl⟩ := Prod.mk.inj same
    exact paid_singleton [c, d, e, f] behind unit

theorem readDigitEscape_paid {sloppy : Bool} {d : Char} {t rest : Text} {us : List Nat}
    (read : readDigitEscape sloppy d t = some (us, rest)) : Paid t us rest := by
  revert read
  fun_cases readDigitEscape sloppy d t with
  | case1 | case3 =>
    rintro ⟨⟩
    exact paid_singleton [] t _
  | case2 => simp
  | case4 _ _ _ more =>
    rintro ⟨⟩
    -- The first digit is the letter of the escape; the others are eaten.
    have cut := paid_singleton (t.take more.length) (t.drop more.length)
      (Nat.ofDigitChars 8 (d :: more) 0)
    rwa [List.take_append_drop] at cut

theorem readEscape_spends {sloppy : Bool} {t rest : Text} {us : List Nat}
    (read : readEscape sloppy t = some (us, rest)) : Spends ('\\' :: t) us rest := by
  revert read
  fun_cases readEscape sloppy t with
  | case1 => simp
  | case2 c behind unit =>
    rintro ⟨⟩
    exact (paid_singleton [] rest unit).spends c
  | case3 behind =>
    rintro ⟨⟩
    cases feed : Text.dropStart? ['\n'] behind with
    | none => exact (paid_nil [] behind).spends _
    | some rest =>
      rw [Text.dropStart?_eq_some_iff] at feed
      rw [feed]
      exact (paid_nil ['\n'] rest).spends _
  | case4 c =>
    rintro ⟨⟩
    exact (paid_nil [] rest).spends c
  | case5 =>
    intro read
    exact (readHexEscape_paid read).spends _
  | case6 =>
    intro read
    exact (readUnicodeEscape_paid read).spends _
  | case7 c =>
    intro read
    exact (readDigitEscape_paid read).spends c
  | case8 c behind noLetter =>
    rintro ⟨⟩
    -- A character that is escaped without need is neither a mark nor a backslash.
    have noMark : c ≠ '\'' := by
      rintro rfl
      exact absurd noLetter (by decide)
    have noBackslash : c ≠ '\\' := by
      rintro rfl
      exact absurd noLetter (by decide)
    refine ⟨['\\', c], by simp, rfl, ?_⟩
    rw [marks_codePointUnits noMark noBackslash, units_cons, units_cons]
    simp only [List.length_append]
    omega

theorem readPiece_spends {sloppy : Bool} {c : Char} {t rest : Text} {us : List Nat}
    (noMark : c ≠ '\'') (read : readPiece sloppy (c :: t) = some (us, rest)) :
    Spends (c :: t) us rest := by
  rw [readPiece] at read
  split at read
  next backslash =>
    rw [backslash]
    exact readEscape_spends read
  next noBackslash =>
    split at read
    next => contradiction
    next =>
      obtain ⟨rfl, rfl⟩ := Prod.mk.inj (Option.some.inj read)
      refine ⟨[c], by simp, rfl, ?_⟩
      simp [units_cons, marks_codePointUnits noMark noBackslash]

theorem Spends.shorter {t rest : Text} {us : List Nat} (spends : Spends t us rest) :
    rest.length < t.length := by
  obtain ⟨eaten, filled, rfl, _⟩ := spends
  have positive := List.length_pos_iff.2 filled
  rw [List.length_append]
  omega

/-! ## Literals -/

def readBody (sloppy : Bool) : Text → Option (List Nat × Text)
  | [] => none
  | c :: rest =>
    if mark : c = '\'' then some ([], rest)
    else
      match piece : readPiece sloppy (c :: rest) with
      | none => none
      | some (us, behind) =>
        have := (readPiece_spends mark piece).shorter
        (readBody sloppy behind).map fun (more, rest) => (us ++ more, rest)
termination_by t => t.length
decreasing_by assumption

/-- Reads a literal in single quotation marks and gives its value and the text behind it. -/
def readLiteral (sloppy : Bool) : Text → Option (List Nat × Text)
  | [] => none
  | c :: rest => if c = '\'' then readBody sloppy rest else none

theorem readBody_mark (sloppy : Bool) (rest : Text) :
    readBody sloppy ('\'' :: rest) = some ([], rest) := by
  rw [readBody, dif_pos rfl]

theorem readBody_piece {sloppy : Bool} {c : Char} {t behind : Text} {us : List Nat}
    (noMark : c ≠ '\'') (piece : readPiece sloppy (c :: t) = some (us, behind)) :
    readBody sloppy (c :: t) =
      (readBody sloppy behind).map fun (more, rest) => (us ++ more, rest) := by
  rw [readBody, dif_neg noMark]
  split
  next nothing => simp [nothing] at piece
  next found =>
    rw [found] at piece
    obtain ⟨rfl, rfl⟩ := Prod.mk.inj (Option.some.inj piece)
    rfl

theorem readBody_nothing {sloppy : Bool} {c : Char} {t : Text} (noMark : c ≠ '\'')
    (nothing : readPiece sloppy (c :: t) = none) : readBody sloppy (c :: t) = none := by
  rw [readBody, dif_neg noMark]
  split
  next => rfl
  next found => simp [found] at nothing

/-- The value of a literal costs no more than the literal without its opening mark. -/
theorem readBody_cost {sloppy : Bool} {t rest : Text} {us : List Nat}
    (read : readBody sloppy t = some (us, rest)) :
    us.length + marks us + 1 + (units rest).length ≤ (units t).length := by
  fun_induction readBody sloppy t generalizing us with
  | case1 | case3 => contradiction
  | case2 behind =>
    obtain ⟨rfl, rfl⟩ := Prod.mk.inj (Option.some.inj read)
    have mark := (length_codePointUnits '\''.toNat).1
    rw [units_cons, List.length_append]
    simp only [marks, List.countP_nil, List.length_nil]
    omega
  | case4 c inside noMark first behind piece _ ih =>
    obtain ⟨⟨more, last⟩, later, same⟩ := Option.map_eq_some_iff.1 read
    obtain ⟨rfl, rfl⟩ := Prod.mk.inj same
    obtain ⟨eaten, _, cut, enough⟩ := readPiece_spends noMark piece
    have others := ih later
    rw [cut, units_append, List.length_append]
    simp only [marks, List.countP_append, List.length_append] at enough others ⊢
    omega

/-! ## Escaped marks -/

theorem escapeSingle_cons (c : Char) (t : Text) :
    Text.escapeSingle (c :: t) =
      (if c = '\'' then ['\\', '\''] else [c]) ++ Text.escapeSingle t :=
  List.flatMap_cons

theorem length_units_escapeSingle (t : Text) :
    (units (Text.escapeSingle t)).length = (units t).length + t.count '\'' := by
  induction t with
  | nil => rfl
  | cons c t ih =>
    rw [escapeSingle_cons, units_append, units_cons, List.count_cons, List.length_append,
      List.length_append, ih]
    by_cases mark : c = '\''
    · have two : (units ['\\', '\'']).length = (codePointUnits '\''.toNat).length + 1 := rfl
      simp only [mark, if_true, two, beq_self_eq_true]
      omega
    · have one : (units [c]).length = (codePointUnits c.toNat).length := by simp [units]
      simp only [mark, if_false, one, beq_iff_eq]
      omega

theorem marks_units (t : Text) : marks (units t) = t.count '\'' + t.count '\\' := by
  induction t with
  | nil => rfl
  | cons c t ih =>
    have both : marks (units (c :: t)) = marks (codePointUnits c.toNat) + marks (units t) := by
      rw [units_cons, marks, List.countP_append]
      rfl
    rw [both, ih, List.count_cons, List.count_cons]
    by_cases mark : c = '\''
    · have one : marks (codePointUnits '\''.toNat) = 1 := rfl
      simp only [mark, one, beq_self_eq_true, if_true, beq_iff_eq, Char.reduceEq, if_false]
      omega
    · by_cases backslash : c = '\\'
      · have one : marks (codePointUnits '\\'.toNat) = 1 := rfl
        simp only [backslash, one, beq_self_eq_true, if_true, beq_iff_eq, Char.reduceEq, if_false]
        omega
      · simp only [marks_codePointUnits mark backslash, mark, backslash, beq_iff_eq, if_false]
        omega

/-- An escape in a literal is never paid for by the text that the literal was made from. -/
theorem backslash_notMem_of_readBody {sloppy : Bool} {value rest : Text}
    (read : readBody sloppy (Text.escapeSingle value ++ '\'' :: rest) = some (units value, rest)) :
    '\\' ∉ value := by
  have cost := readBody_cost read
  rw [units_append, units_cons, List.length_append, List.length_append, marks_units,
    length_units_escapeSingle] at cost
  -- The literal has a unit for every mark of its text, but none for a backslash.
  have mark : (codePointUnits '\''.toNat).length = 1 := rfl
  rw [← List.count_eq_zero]
  omega

theorem readBody_escapeSingle (sloppy : Bool) {value : Text} (rest : Text)
    (noBackslash : '\\' ∉ value) :
    readBody sloppy (Text.escapeSingle value ++ '\'' :: rest) =
      if '\n' ∈ value ∨ '\r' ∈ value then none else some (units value, rest) := by
  induction value with
  | nil => exact readBody_mark sloppy rest
  | cons c value ih =>
    rw [List.mem_cons, not_or] at noBackslash
    have later := ih noBackslash.2
    rw [escapeSingle_cons, units_cons, List.append_assoc]
    by_cases mark : c = '\''
    · subst mark
      have piece (t : Text) : readPiece sloppy ('\\' :: '\'' :: t) = some ([0x27], t) := rfl
      show readBody sloppy ('\\' :: '\'' :: (Text.escapeSingle value ++ '\'' :: rest)) = _
      rw [readBody_piece (by decide) (piece _), later]
      simp only [List.mem_cons, Char.reduceEq, false_or]
      split <;> rfl
    · -- Any other character stands for itself, unless it ends a line.
      rw [if_neg mark]
      show readBody sloppy (c :: (Text.escapeSingle value ++ '\'' :: rest)) = _
      by_cases line : c = '\n' ∨ c = '\r'
      · have nothing (t : Text) : readPiece sloppy (c :: t) = none := by
          rw [readPiece, if_neg (Ne.symm noBackslash.1), if_pos (by simpa using line)]
        rw [readBody_nothing mark (nothing _), if_pos]
        rcases line with rfl | rfl <;> simp
      · have piece (t : Text) :
            readPiece sloppy (c :: t) = some (codePointUnits c.toNat, t) := by
          rw [readPiece, if_neg (Ne.symm noBackslash.1), if_neg (by simpa using line)]
        rw [not_or] at line
        rw [readBody_piece mark (piece _), later]
        simp only [List.mem_cons, Ne.symm line.1, Ne.symm line.2, false_or]
        split <;> rfl

/-- A literal in which only the mark is escaped is read as its text, up to its own closing mark,
exactly if there is neither a backslash nor a raw end of a line in the text. -/
theorem readLiteral_quoteSingle_iff {sloppy : Bool} {value behind : Text} :
    readLiteral sloppy (Text.quoteSingle value ++ behind) = some (units value, behind) ↔
      '\\' ∉ value ∧ '\n' ∉ value ∧ '\r' ∉ value := by
  have body : readLiteral sloppy (Text.quoteSingle value ++ behind) =
      readBody sloppy (Text.escapeSingle value ++ '\'' :: behind) := by
    rw [Text.quoteSingle, List.cons_append, List.append_assoc]
    rfl
  rw [body]
  constructor
  · intro read
    have noBackslash := backslash_notMem_of_readBody read
    rw [readBody_escapeSingle sloppy behind noBackslash] at read
    split at read
    next => contradiction
    next noLine =>
      rw [not_or] at noLine
      exact ⟨noBackslash, noLine⟩
  · rintro ⟨noBackslash, noLine⟩
    rw [readBody_escapeSingle sloppy behind noBackslash, if_neg (not_or.2 noLine)]

/-- A literal in front of a text means a value: no line ends in it, and in sloppy and in strict mode
it has that value and ends right before the text. -/
def Means (literal behind value : Text) : Prop :=
  (∀ c, isLineTerminator c = true → c ∉ literal) ∧
    ∀ sloppy, readLiteral sloppy (literal ++ behind) = some (units value, behind)

def IsPlain (value : Text) : Prop :=
  '\\' ∉ value ∧ ∀ c, isLineTerminator c = true → c ∉ value

/-- Escaping the mark keeps every character and adds none that ends a line. -/
theorem mem_quoteSingle_iff {value : Text} {c : Char} (line : isLineTerminator c = true) :
    c ∈ Text.quoteSingle value ↔ c ∈ value := by
  have noMark : c ≠ '\'' := by
    rintro rfl
    exact absurd line (by decide)
  have noBackslash : c ≠ '\\' := by
    rintro rfl
    exact absurd line (by decide)
  have escaped : c ∈ Text.escapeSingle value ↔ c ∈ value := by
    induction value with
    | nil => exact Iff.rfl
    | cons d value ih =>
      rw [escapeSingle_cons, List.mem_append, List.mem_cons, ih]
      by_cases mark : d = '\'' <;> simp [mark, noMark, noBackslash]
  simp [Text.quoteSingle, noMark, escaped]

theorem means_quoteSingle_iff {value behind : Text} :
    Means (Text.quoteSingle value) behind value ↔ IsPlain value := by
  have sameLines : (∀ c, isLineTerminator c = true → c ∉ Text.quoteSingle value) ↔
      ∀ c, isLineTerminator c = true → c ∉ value :=
    forall₂_congr fun _ line => not_congr (mem_quoteSingle_iff line)
  rw [Means, IsPlain, sameLines]
  constructor
  · rintro ⟨oneLine, read⟩
    exact ⟨(readLiteral_quoteSingle_iff.1 (read true)).1, oneLine⟩
  · rintro ⟨noBackslash, oneLine⟩
    have noBreaks := And.intro (oneLine '\n' (by decide)) (oneLine '\r' (by decide))
    exact ⟨oneLine, fun _ => readLiteral_quoteSingle_iff.2 ⟨noBackslash, noBreaks⟩⟩

end Snippet.Script
