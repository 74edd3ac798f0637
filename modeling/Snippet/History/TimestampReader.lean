import Snippet.History.Timestamp

/-!
# Reading timestamps

A timestamp is read more generously than it is written. Blanks may stand before every part, a part
needs no leading zero, the date and the time are separated by a `T` of either case or by a space,
and the time is followed by the offset of a place: `Z`, the word `UTC`, or a sign with hours and
minutes. Digits after the ninth of a fraction are dropped. Each part is checked when it is read, and
the date as a whole after everything has been read.
-/

namespace Snippet.History.Timestamp

inductive Fault where
  | tooShort
  | invalid
  | outOfRange
  | tooLong
  | impossible
  deriving DecidableEq, Repr

def Fault.message : Fault → Text
  | tooShort => "premature end of input"
  | invalid => "input contains invalid characters"
  | outOfRange => "input is out of range"
  | tooLong => "trailing input"
  | impossible => "no possible date and time matching input"

/-! ## Parts -/

/-- Reads a number of at least one digit and at most as many as given, which has to fit into a
signed 64-bit integer. -/
def readNumber (most : Nat) (t : Text) : Except Fault (Nat × Text) :=
  match t with
  | [] => .error .tooShort
  | c :: _ =>
    if !c.isDigit then .error .invalid
    else
      let digits := (t.take most).takeWhile Char.isDigit
      let value := Nat.ofDigitChars 10 digits 0
      if value < Nat.pow 2 63 then .ok (value, t.drop digits.length) else .error .outOfRange

/-- Reads a part of one or two digits in a given range. -/
def readPart (least most : Nat) (t : Text) : Except Fault (Nat × Text) :=
  match readNumber 2 (Text.trimStart t) with
  | .error fault => .error fault
  | .ok (value, rest) =>
    if least ≤ value ∧ value ≤ most then .ok (value, rest) else .error .outOfRange

/-- Reads a given character after blanks. -/
def readMark (mark : Char) (t : Text) : Except Fault Text :=
  match Text.trimStart t with
  | [] => .error .tooShort
  | c :: rest => if c = mark then .ok rest else .error .invalid

/-- Reads a year: up to four digits, or any number of digits after a sign. -/
def readYear (t : Text) : Except Fault (Int × Text) :=
  match Text.trimStart t with
  | [] => .error .tooShort
  | c :: rest =>
    if c = '-' || c = '+' then
      match readNumber rest.length rest with
      | .error fault => .error fault
      | .ok (value, rest) =>
        -- Only a sign admits more than four digits, and then the year has to fit into 32 bits.
        let year : Int := if c = '-' then -value else value
        if -(Nat.pow 2 31 : Int) ≤ year ∧ year < (Nat.pow 2 31 : Int) then .ok (year, rest)
        else .error .outOfRange
    else (readNumber 4 (c :: rest)).map fun (value, rest) => (value, rest)

/-- Reads a fraction of a second in nanoseconds, if there is one. -/
def readFraction (t : Text) : Except Fault (Nat × Text) :=
  match t with
  | [] => .ok (0, [])
  | c :: rest =>
    if c = '.' then
      match readNumber 9 rest with
      | .error fault => .error fault
      | .ok (value, after) =>
        -- The digits that were read are the leading ones of nine.
        .ok (value * Nat.pow 10 (9 - (rest.length - after.length)), after.dropWhile Char.isDigit)
    else .ok (0, c :: rest)

/-! ## Offsets -/

/-- The value of the two digits at the start of a text and what follows them. A text of a single
byte is too short. -/
def readTwoDigits (t : Text) : Except Fault (Nat × Text) :=
  if Text.byteSize t < 2 then .error .tooShort
  else
    match t with
    | a :: b :: rest =>
      if a.isDigit && b.isDigit then .ok (Nat.ofDigitChars 10 [a, b] 0, rest) else .error .invalid
    -- One character of several bytes.
    | _ => .error .invalid

/-- Reads the sign of an offset, true for a minus. -/
def readOffsetSign (t : Text) : Except Fault (Bool × Text) :=
  match t with
  | [] => .error .tooShort
  | c :: rest =>
    if c = '+' then .ok (false, rest)
    -- U+2212 is the minus sign, beside the hyphen.
    else if c = '-' || c.toNat = 0x2212 then .ok (true, rest)
    else .error .invalid

/-- Reads the hours and minutes of an offset, with any blanks and colons between them. Minutes from
sixty on are out of range. -/
def readOffsetMinutes (t : Text) : Except Fault (Int × Text) := do
  let (negative, t) ← readOffsetSign t
  let (hours, t) ← readTwoDigits t
  let (minutes, t) ← readTwoDigits (t.dropWhile fun c => c = ':' || Unicode.isBlank c)
  if 60 ≤ minutes then throw .outOfRange
  let total : Int := hours * 60 + minutes
  pure (if negative then -total else total, t)

/-- Reads an offset in minutes: none for `Z` and for the word `UTC`. -/
def readOffset (t : Text) : Except Fault (Int × Text) :=
  if Text.lowerAscii (t.take 3) = "utc".toList then .ok (0, t.drop 3)
  else
    match t with
    | [] => readOffsetMinutes []
    | c :: rest =>
      if c = 'Z' || c = 'z' then .ok (0, rest) else readOffsetMinutes (c :: rest)

/-! ## Timestamps -/

def readDate (t : Text) : Except Fault ((Int × Nat × Nat) × Text) := do
  let (year, t) ← readYear t
  let t ← readMark '-' t
  let (month, t) ← readPart 1 12 t
  let t ← readMark '-' t
  let (day, t) ← readPart 1 31 t
  pure ((year, month, day), t)

def readSeparator (t : Text) : Except Fault Text :=
  match t with
  | [] => .error .tooShort
  | c :: rest => if c = 'T' || c = 't' || c = ' ' then .ok rest else .error .invalid

def readClock (t : Text) : Except Fault (Clock × Text) := do
  let (hour, t) ← readPart 0 23 t
  let t ← readMark ':' t
  let (minute, t) ← readPart 0 59 t
  let t ← readMark ':' t
  let (second, t) ← readPart 0 60 t
  let (nano, t) ← readFraction t
  match Clock.ofParts? hour minute second nano with
  | some clock => pure (clock, t)
  | none => throw .outOfRange

def parse (t : Text) : Except Fault Timestamp := do
  let ((year, month, day), t) ← readDate t
  let t ← readSeparator t
  let (clock, t) ← readClock t
  let (offset, t) ← readOffset (Text.trimStart t)
  if !Text.isBlank t then throw .tooLong
  -- The date is checked as a whole only after everything has been read.
  match Date.ofParts? year month day with
  | none => throw .outOfRange
  | some date =>
    if offset.natAbs < 1440 then
      match ofLocal? date clock offset with
      | some timestamp => pure timestamp
      | none => throw .impossible
    else throw .outOfRange

end Snippet.History.Timestamp
