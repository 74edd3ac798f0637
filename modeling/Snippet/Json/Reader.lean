import Snippet.Json.Basic
import Snippet.Json.Fault

/-!
# Reading JSON

A JSON text is read from left to right; each reader takes the text that is still unread and answers
with what it read and the rest. The first fault ends the reading. Arrays and objects may be nested
127 deep. A key that comes twice in an object keeps its first place and takes its last value.

The functions for values, elements and members call each other once for every one or two characters
at most, so twice the length of the text bounds the depth of the calls; `read` supplies that bound.
-/

namespace Snippet.Json

open Snippet.Number

/-- Whether a character may stand between the parts of a JSON text. -/
def isSpace (c : Char) : Bool :=
  c = ' ' || c = '\n' || c = '\t' || c = '\r'

def skipSpace (t : Text) : Text :=
  t.dropWhile isSpace

/-! ## Strings -/

def hexValue? (c : Char) : Option Nat :=
  if c.isDigit then some (c.toNat - '0'.toNat)
  else if 'a' ≤ c && c ≤ 'f' then some (c.toNat - 'a'.toNat + 10)
  else if 'A' ≤ c && c ≤ 'F' then some (c.toNat - 'A'.toNat + 10)
  else none

def unit? (a b c d : Char) : Option Nat := do
  let a ← hexValue? a
  let b ← hexValue? b
  let c ← hexValue? c
  let d ← hexValue? d
  pure (((a * 16 + b) * 16 + c) * 16 + d)

/-- Whether a 16-bit unit is the first half of a surrogate pair. -/
def isLeading (unit : Nat) : Bool :=
  0xD800 ≤ unit && unit ≤ 0xDBFF

/-- Whether a 16-bit unit is the second half of a surrogate pair. -/
def isTrailing (unit : Nat) : Bool :=
  0xDC00 ≤ unit && unit ≤ 0xDFFF

def pairChar (leading trailing : Nat) : Char :=
  Char.ofNat ((leading - 0xD800) * 0x400 + (trailing - 0xDC00) + 0x10000)

def letterChar? (letter : Char) : Option Char :=
  if letter = '"' then some '"'
  else if letter = '\\' then some '\\'
  else if letter = '/' then some '/'
  else if letter = 'b' then some '\x08'
  else if letter = 'f' then some '\x0c'
  else if letter = 'n' then some '\n'
  else if letter = 'r' then some '\r'
  else if letter = 't' then some '\t'
  else none

/-- Refuses a text that has no four hexadecimal digits at its start: four bytes are looked at, and a
text that has fewer is a string without an end. -/
def refuseUnit {α : Type} (t : Text) : Except Fault α :=
  if Text.byteSize t < 4 then refuse .stringOpen (Text.byteSize t) t
  else refuse .invalidEscape 4 t

def prepend (c : Char) (reading : Except Fault (Text × Text)) : Except Fault (Text × Text) :=
  reading.map fun (s, rest) => (c :: s, rest)

/-- Reads the rest of a string after its opening mark. -/
def readString : Text → Except Fault (Text × Text)
  | [] => refuse .stringOpen 0 []
  | c :: rest =>
    if c = '"' then .ok ([], rest)
    else if c = '\\' then
      match rest with
      | [] => refuse .stringOpen 0 []
      | letter :: escaped =>
        if letter = 'u' then
          match escaped with
          | h₁ :: h₂ :: h₃ :: h₄ :: next =>
            match unit? h₁ h₂ h₃ h₄ with
            | none => refuseUnit escaped
            | some unit =>
              -- The second half of a pair cannot come first.
              if isTrailing unit then refuse .loneSurrogate 0 next
              else if !isLeading unit then prepend (Char.ofNat unit) (readString next)
              else
                -- The first half of a pair needs another escape right behind it.
                match next with
                | [] => refuse .stringOpen 0 []
                | backslash :: second =>
                  if backslash ≠ '\\' then refuse .surrogateUnpaired 1 next
                  else
                    match second with
                    | [] => refuse .stringOpen 0 []
                    | mark :: digits =>
                      if mark ≠ 'u' then refuse .surrogateUnpaired 1 second
                      else
                        match digits with
                        | k₁ :: k₂ :: k₃ :: k₄ :: last =>
                          match unit? k₁ k₂ k₃ k₄ with
                          | none => refuseUnit digits
                          | some trailing =>
                            if isTrailing trailing then
                              prepend (pairChar unit trailing) (readString last)
                            else refuse .loneSurrogate 0 last
                        | _ => refuseUnit digits
          | _ => refuseUnit escaped
        else
          match letterChar? letter with
          | some c => prepend c (readString escaped)
          | none => refuse .invalidEscape 1 rest
    else if c.toNat < 0x20 then refuse .controlCharacter 1 (c :: rest)
    else prepend c (readString rest)

/-! ## Numbers -/

def digit (c : Char) : Digit :=
  Fin.ofNat 10 (c.toNat - '0'.toNat)

/-- Accepts a number that is in range. -/
def finishNumber (n : Number) (rest : Text) : Except Fault (Number × Text) :=
  if n.value?.isSome then .ok (n, rest) else refuse .numberOutOfRange 0 rest

/-- The greatest exponent that is computed with. -/
def exponentLimit : Nat := Nat.pow 2 31 - 1

/-- How many digits at the end of a number can be left out such that it still exceeds the limit of
exponents. -/
def surplusDigits (n : Nat) : Nat :=
  if exponentLimit < n / 10 then surplusDigits (n / 10) + 1 else 0
termination_by n
decreasing_by
  have : 0 < exponentLimit := by decide
  omega

/-- Reads the exponent of a number, if it has one. A positive exponent beyond the limit puts a
number other than zero out of range at the digit that exceeds the limit. -/
def readExponent (n : Number) (t : Text) : Except Fault (Number × Text) :=
  match t with
  | [] => finishNumber n []
  | c :: rest =>
    if c = 'e' || c = 'E' then
      let (negative, digits) := readSign rest
      match digits with
      | [] => refuse .valueMissing 0 []
      | d :: _ =>
        if !d.isDigit then refuse .invalidNumber 1 digits
        else
          let value := digitsValue (digits.takeWhile Char.isDigit)
          let rest := digits.dropWhile Char.isDigit
          -- Zero stays zero, and a negative exponent only brings a number closer to it.
          if exponentLimit < value && !negative && n.scientific.1 ≠ 0 then
            .error ⟨.numberOutOfRange, Text.byteSize rest + surplusDigits value⟩
          else finishNumber { n with exponent := some (if negative then -value else value) } rest
    else finishNumber n (c :: rest)

def readFraction (negative : Bool) (whole : Nat) (t : Text) : Except Fault (Number × Text) :=
  match t with
  | [] => finishNumber ⟨negative, whole, [], none⟩ []
  | c :: rest =>
    if c = '.' then
      match rest with
      | [] => refuse .valueMissing 0 []
      | d :: _ =>
        if !d.isDigit then refuse .invalidNumber 1 rest
        else
          readExponent ⟨negative, whole, (rest.takeWhile Char.isDigit).map digit, none⟩
            (rest.dropWhile Char.isDigit)
    else readExponent ⟨negative, whole, [], none⟩ (c :: rest)

/-- Reads a number after its sign. No digit may follow a zero at its start. -/
def readNumber (negative : Bool) (t : Text) : Except Fault (Number × Text) :=
  match t with
  | [] => refuse .valueMissing 0 []
  | c :: rest =>
    if c = '0' then
      match rest with
      | [] => readFraction negative 0 []
      | d :: _ => if d.isDigit then refuse .invalidNumber 1 rest else readFraction negative 0 rest
    else if c.isDigit then
      readFraction negative (digitsValue (t.takeWhile Char.isDigit)) (t.dropWhile Char.isDigit)
    else refuse .invalidNumber 1 t

/-! ## Values -/

def readWord (value : Json) : Text → Text → Except Fault (Json × Text)
  | [], t => .ok (value, t)
  | _ :: _, [] => refuse .valueMissing 0 []
  | letter :: letters, c :: rest =>
    if c = letter then readWord value letters rest else refuse .wordExpected 1 (c :: rest)

/-- Reads a key and the colon after it; the text starts where the key should. -/
def readKey (t : Text) : Except Fault (Text × Text) :=
  match t with
  | [] => refuse .valueMissing 0 []
  | c :: rest =>
    if c = '"' then do
      let (key, rest) ← readString rest
      match skipSpace rest with
      | [] => refuse .objectOpen 0 []
      | d :: rest => if d = ':' then .ok (key, rest) else refuse .colonExpected 1 (d :: rest)
    else refuse .keyNotString 1 (c :: rest)

mutual

/-- Reads a value; `depth` arrays and objects may still be opened. -/
def readValue (fuel depth : Nat) (t : Text) : Except Fault (Json × Text) :=
  match fuel with
  -- Only met with less fuel than `readDocument` supplies.
  | 0 => refuse .tooDeep 0 t
  | fuel + 1 =>
    match skipSpace t with
    | [] => refuse .valueMissing 0 []
    | c :: rest =>
      if c = '"' then (readString rest).map fun (s, rest) => (.string s, rest)
      else if c = '[' then
        match depth with
        | 0 => refuse .tooDeep 1 (c :: rest)
        | depth + 1 => do
          let (elements, rest) ← readElements fuel depth rest
          pure (.array elements, rest)
      else if c = '\x7b' then
        match depth with
        | 0 => refuse .tooDeep 1 (c :: rest)
        | depth + 1 => do
          let (members, rest) ← readMembers fuel depth rest
          pure (.object (Table.ofEntries members), rest)
      else if c = 'n' then readWord .null "ull" rest
      else if c = 't' then readWord (.bool true) "rue" rest
      else if c = 'f' then readWord (.bool false) "alse" rest
      else if c = '-' then (readNumber true rest).map fun (n, rest) => (.number n, rest)
      else if c.isDigit then
        (readNumber false (c :: rest)).map fun (n, rest) => (.number n, rest)
      else refuse .valueExpected 1 (c :: rest)

def readElements (fuel depth : Nat) (t : Text) : Except Fault (List Json × Text) :=
  match fuel with
  | 0 => refuse .tooDeep 0 t
  | fuel + 1 =>
    match skipSpace t with
    | [] => refuse .listOpen 0 []
    | c :: rest =>
      if c = ']' then .ok ([], rest)
      else do
        let (element, rest) ← readValue fuel depth (c :: rest)
        let (elements, rest) ← readMoreElements fuel depth rest
        pure (element :: elements, rest)

def readMoreElements (fuel depth : Nat) (t : Text) : Except Fault (List Json × Text) :=
  match fuel with
  | 0 => refuse .tooDeep 0 t
  | fuel + 1 =>
    match skipSpace t with
    | [] => refuse .listOpen 0 []
    | c :: rest =>
      if c = ']' then .ok ([], rest)
      else if c = ',' then
        match skipSpace rest with
        | [] => refuse .valueMissing 0 []
        | d :: rest =>
          if d = ']' then refuse .trailingComma 1 (d :: rest)
          else do
            let (element, rest) ← readValue fuel depth (d :: rest)
            let (elements, rest) ← readMoreElements fuel depth rest
            pure (element :: elements, rest)
      else refuse .listSeparatorExpected 1 (c :: rest)

def readMembers (fuel depth : Nat) (t : Text) : Except Fault (List (Text × Json) × Text) :=
  match fuel with
  | 0 => refuse .tooDeep 0 t
  | fuel + 1 =>
    match skipSpace t with
    | [] => refuse .objectOpen 0 []
    | c :: rest =>
      if c = '\x7d' then .ok ([], rest)
      else do
        let (key, rest) ← readKey (c :: rest)
        let (value, rest) ← readValue fuel depth rest
        let (members, rest) ← readMoreMembers fuel depth rest
        pure ((key, value) :: members, rest)

def readMoreMembers (fuel depth : Nat) (t : Text) : Except Fault (List (Text × Json) × Text) :=
  match fuel with
  | 0 => refuse .tooDeep 0 t
  | fuel + 1 =>
    match skipSpace t with
    | [] => refuse .objectOpen 0 []
    | c :: rest =>
      if c = '\x7d' then .ok ([], rest)
      else if c = ',' then
        match skipSpace rest with
        | [] => refuse .valueMissing 0 []
        | d :: rest =>
          if d = '\x7d' then refuse .trailingComma 1 (d :: rest)
          else do
            let (key, rest) ← readKey (d :: rest)
            let (value, rest) ← readValue fuel depth rest
            let (members, rest) ← readMoreMembers fuel depth rest
            pure ((key, value) :: members, rest)
      else refuse .objectSeparatorExpected 1 (c :: rest)

end

/-- How many arrays and objects may be open at once. -/
def depthLimit : Nat := 127

/-- Reads a text that holds one value and nothing else but space. -/
def readDocument (t : Text) : Except Fault Json := do
  let (value, rest) ← readValue (2 * t.length + 2) depthLimit t
  match skipSpace rest with
  | [] => pure value
  | c :: rest => refuse .trailingCharacters 1 (c :: rest)

def read (t : Text) : Except SyntaxFault Json :=
  (readDocument t).mapError fun fault => fault.locate t

end Snippet.Json
