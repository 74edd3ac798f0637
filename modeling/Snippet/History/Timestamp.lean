import Snippet.History.Date
import Snippet.Text.Basic

/-!
# Timestamps

A timestamp is a date and a time of day in UTC, exact to the nanosecond. A leap second is the
second 59 of its minute with a fraction of one second or more, so that it comes after that second
and before the next minute. A timestamp is written with the fewest of zero, three, six and nine
fractional digits that lose nothing.
-/

namespace Snippet.History

def nanosPerSecond : Nat := 1000000000

def secondsPerDay : Nat := 86400

/-- A time of day: the second of the day and the nanoseconds since it began. -/
structure Clock where
  second : Nat
  nano : Nat
  second_lt : second < 86400
  nano_lt : nano < 2000000000
  leap : 1000000000 ≤ nano → second % 60 = 59
  deriving DecidableEq, Repr

/-- The time of day with given parts, if they name one; second 60 is a leap second. -/
def Clock.ofParts? (hour minute second nano : Nat) : Option Clock :=
  if range : hour < 24 ∧ minute < 60 ∧ second ≤ 60 ∧ nano < 1000000000 then
    if last : second = 60 then
      some ⟨hour * 3600 + minute * 60 + 59, nano + 1000000000, by omega, by omega, by omega⟩
    else some ⟨hour * 3600 + minute * 60 + second, nano, by omega, by omega, by omega⟩
  else none

/-- A timestamp in UTC. -/
structure Timestamp where
  date : Date
  clock : Clock
  deriving DecidableEq, Repr

namespace Timestamp

/-- The time of day that is some minutes before a given one, and the number of midnights that lie
before it. -/
def shiftClock (c : Clock) (minutes : Int) : Clock × Int :=
  -- Both operations round down, so a time before midnight counts back from the next day.
  let moved : Int := c.second - minutes * 60
  (⟨(moved % 86400).toNat, c.nano, by omega, c.nano_lt, by have := c.leap; omega⟩, moved / 86400)

/-- The timestamp whose local date and time are given, at a place whose clocks are ahead of UTC by
some minutes; less than a day. There is none if the date leaves the range. -/
def ofLocal? (date : Date) (clock : Clock) (aheadMinutes : Int) : Option Timestamp :=
  let (clock, midnights) := shiftClock clock aheadMinutes
  let date? :=
    if midnights < 0 then date.previous else if 0 < midnights then date.next else some date
  date?.map fun date => ⟨date, clock⟩

/-- A number that grows with time: the parts of a timestamp as the digits of one number, none of
them reaching the base of its place. -/
def rank (t : Timestamp) : Int :=
  (((t.date.year * 16 + t.date.month) * 32 + t.date.day) * 86400 + t.clock.second) * 2000000000 +
    t.clock.nano

def isAfter (t u : Timestamp) : Bool :=
  u.rank < t.rank

/-! ## Writing -/

/-- A number with zeros in front to a given width. -/
def padded (width n : Nat) : Text :=
  let digits := Nat.toDigits 10 n
  List.replicate (width - digits.length) '0' ++ digits

/-- A year with four digits, and with a sign if it has more or is negative. -/
def yearText (year : Int) : Text :=
  if year < 0 then '-' :: padded 4 year.natAbs
  else if year ≤ 9999 then padded 4 year.natAbs
  else '+' :: padded 4 year.natAbs

/-- The fraction of a second with the fewest digits out of none, three, six and nine. -/
def fractionText (nano : Nat) : Text :=
  if nano = 0 then []
  else if nano % 1000000 = 0 then '.' :: padded 3 (nano / 1000000)
  else if nano % 1000 = 0 then '.' :: padded 6 (nano / 1000)
  else '.' :: padded 9 nano

/-- The second of a minute as it is written: sixty in a leap second. -/
def secondOfMinute (c : Clock) : Nat :=
  c.second % 60 + c.nano / 1000000000

def text (t : Timestamp) : Text :=
  yearText t.date.year ++ "-" ++ padded 2 t.date.month ++ "-" ++ padded 2 t.date.day ++ "T" ++
    padded 2 (t.clock.second / 3600) ++ ":" ++ padded 2 (t.clock.second / 60 % 60) ++ ":" ++
    padded 2 (secondOfMinute t.clock) ++ fractionText (t.clock.nano % 1000000000) ++ "Z"

end Timestamp

end Snippet.History
