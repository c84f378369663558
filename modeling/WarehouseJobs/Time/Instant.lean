-- Points in time to the nanosecond, in UTC, and how they are written in a text.
import WarehouseJobs.Text.Split
import WarehouseJobs.Text.Whole
import WarehouseJobs.Time.Calendar

namespace WarehouseJobs

/-- A point in time. Within a leap second, `nanos` goes on over a whole second. -/
structure Instant where
  /-- Seconds from 1970-01-01T00:00:00Z. -/
  seconds : Int
  nanos : Nat
deriving DecidableEq, Repr

namespace Instant

/-- The first and the last second that are kept: the years -262143 to 262142. -/
def firstSecond : Int := Date.toDays ⟨-262143, 1, 1⟩ * 86400
def lastSecond : Int := Date.toDays ⟨262142, 12, 31⟩ * 86400 + 86399

def isKept (seconds : Int) : Bool := firstSecond ≤ seconds && seconds ≤ lastSecond

/-- The instant that is `millis` milliseconds after the start of 1970. -/
def ofMillis? (millis : Int) : Option Instant :=
  if isKept (millis / 1000) then some ⟨millis / 1000, (millis % 1000).toNat * 1000000⟩ else none

/-! ## Writing -/

/-- A year; with a sign where it does not have four digits. -/
def yearShown (year : Int) : String :=
  if 0 ≤ year ∧ year ≤ 9999 then Text.padded 4 year.toNat
  else if 0 ≤ year then "+" ++ Text.padded 4 year.toNat
  else "-" ++ Text.padded 4 year.natAbs

/-- A part of a second in as few groups of three digits as it needs. -/
def fractionShown (nanos : Nat) : String :=
  if nanos = 0 then ""
  else if nanos % 1000000 = 0 then "." ++ Text.padded 3 (nanos / 1000000)
  else if nanos % 1000 = 0 then "." ++ Text.padded 6 (nanos / 1000)
  else "." ++ Text.padded 9 nanos

/-- The date. -/
def dayShown (t : Instant) : String :=
  let date := Date.ofDays (t.seconds / 86400)
  yearShown date.year ++ "-" ++ Text.padded 2 date.month ++ "-" ++ Text.padded 2 date.day

/-- The hour of the day. -/
def hourShown (t : Instant) : String := Text.padded 2 ((t.seconds % 86400).toNat / 3600)

/-- Date and time without zone. -/
def localShown (t : Instant) : String :=
  let inDay := (t.seconds % 86400).toNat
  let second := inDay % 60 + t.nanos / 1000000000
  t.dayShown ++ "T" ++ t.hourShown ++ ":" ++ Text.padded 2 (inDay / 60 % 60) ++ ":"
    ++ Text.padded 2 second ++ fractionShown (t.nanos % 1000000000)

/-- As in JSON, with the letter Z for the zone. -/
def shown (t : Instant) : String := t.localShown ++ "Z"

/-- With the zone as an offset, which is always zero. -/
def shownWithOffset (t : Instant) : String := t.localShown ++ "+00:00"

/-! ## Reading -/

/-- Up to `most` digits, but at least one, with their value. -/
def digitsUpTo? (most : Nat) (cs : List Char) : Option (Nat × List Char) :=
  let digits := (cs.take most).takeWhile fun c => (Text.digitValue? c).isSome
  (Text.digits? digits).map fun n => (n, cs.drop digits.length)

/-- A number of one or two digits, with white space in front. -/
def short? (cs : List Char) : Option (Nat × List Char) := digitsUpTo? 2 (Text.trimLeft cs)

/-- The text behind a mark, with white space in front of it. -/
def behind? (mark : Char) (cs : List Char) : Option (List Char) :=
  match Text.trimLeft cs with
  | c :: rest => if c = mark then some rest else none
  | [] => none

/-- A year. With a sign it may have any number of digits. -/
def year? (cs : List Char) : Option (Int × List Char) :=
  match Text.trimLeft cs with
  | '-' :: rest => (digitsUpTo? rest.length rest).map fun (n, rest) => (-(n : Int), rest)
  | '+' :: rest => (digitsUpTo? rest.length rest).map fun (n, rest) => ((n : Int), rest)
  | rest => (digitsUpTo? 4 rest).map fun (n, rest) => ((n : Int), rest)

def date? (cs : List Char) : Option (Date × List Char) := do
  let (year, cs) ← year? cs
  let (month, cs) ← short? (← behind? '-' cs)
  let (day, cs) ← short? (← behind? '-' cs)
  let date : Date := ⟨year, month, day⟩
  if date.isReal then some (date, cs) else none

/-- The part of a second behind a point. Digits after the ninth do not count. -/
def fraction? : List Char → Option (Nat × List Char)
  | '.' :: cs =>
    (digitsUpTo? 9 cs).map fun (n, rest) =>
      (n * Nat.pow 10 (9 - (cs.length - rest.length)),
        rest.dropWhile fun c => (Text.digitValue? c).isSome)
  | cs => some (0, cs)

/-- Seconds in the day, and nanoseconds. The sixtieth second is a leap second. -/
def time? (cs : List Char) : Option (Nat × Nat × List Char) := do
  let (hour, cs) ← short? cs
  let (minute, cs) ← short? (← behind? ':' cs)
  let (second, cs) ← short? (← behind? ':' cs)
  let (nanos, cs) ← fraction? cs
  if hour ≤ 23 ∧ minute ≤ 59 ∧ second ≤ 60 then
    if second = 60 then some (hour * 3600 + minute * 60 + 59, nanos + 1000000000, cs)
    else some (hour * 3600 + minute * 60 + second, nanos, cs)
  else none

def twoDigits? : List Char → Option (Nat × List Char)
  | a :: b :: rest =>
    match Text.digitValue? a, Text.digitValue? b with
    | some x, some y => some (x * 10 + y, rest)
    | _, _ => none
  | _ => none

/-- Hours and minutes of an offset, in seconds. -/
def offset? (cs : List Char) : Option (Nat × List Char) := do
  let (hours, cs) ← twoDigits? cs
  let (minutes, cs) ← twoDigits? (cs.dropWhile fun c => c = ':' || Text.isBlankChar c)
  if minutes ≤ 59 then some (hours * 3600 + minutes * 60, cs) else none

/-- The zone: a letter, a word, or an offset. -/
def zone? (cs : List Char) : Option (Int × List Char) :=
  if (cs.take 3).map Char.toLower = ['u', 't', 'c'] then some (0, cs.drop 3)
  else
    match cs with
    | [] => none
    | c :: rest =>
      if c = 'Z' ∨ c = 'z' then some (0, rest)
      else if c = '+' then (offset? rest).map fun (n, rest) => ((n : Int), rest)
      else if c = '-' ∨ c.toNat = 0x2212 then
        (offset? rest).map fun (n, rest) => (-(n : Int), rest)
      else none

/-- Reads date, time and zone, with white space wherever it does no harm. -/
def ofText? (s : String) : Option Instant := do
  let (date, cs) ← date? s.toList
  let cs ← match cs with
    | c :: rest => if c = 'T' ∨ c = 't' ∨ c = ' ' then some rest else none
    | [] => none
  let (inDay, nanos, cs) ← time? cs
  let (zone, rest) ← zone? (Text.trimLeft cs)
  let here := date.toDays * 86400 + inDay
  if Text.trimLeft rest = [] ∧ zone.natAbs < 86400 ∧ isKept here ∧ isKept (here - zone) then
    some ⟨here - zone, nanos⟩
  else none

end Instant
end WarehouseJobs
