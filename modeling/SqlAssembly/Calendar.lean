import SqlAssembly.Scalar

/-! # Dates and times as scalars

Dates and times are bound as texts.  A date is a day of the Gregorian calendar, reckoned
backwards beyond its introduction and with a year zero; a time of day may lie inside a
leap second, which follows second 59 and is written as second 60.

* `Date.ofParts?`, `TimeOfDay.ofParts?` — only what exists can be made.
* `Date.text`, `DateTime.text`, `DateTime.utcText` — the texts that are bound.
-/

namespace SqlAssembly

/-! ## Dates -/

def isLeapYear (year : Int) : Bool :=
  year % 4 == 0 && (year % 100 != 0 || year % 400 == 0)

/-- The number of days of a month, zero for a month that does not exist. -/
def daysInMonth (year : Int) (month : Nat) : Nat :=
  match month with
  | 1 | 3 | 5 | 7 | 8 | 10 | 12 => 31
  | 4 | 6 | 9 | 11 => 30
  | 2 => if isLeapYear year then 29 else 28
  | _ => 0

structure Date where
  year : Int
  month : Nat
  day : Nat
  year_bounds : -262143 ≤ year ∧ year ≤ 262142
  day_bounds : 1 ≤ day ∧ day ≤ daysInMonth year month

namespace Date

def ofParts? (year : Int) (month day : Nat) : Option Date :=
  if years : -262143 ≤ year ∧ year ≤ 262142 then
    if days : 1 ≤ day ∧ day ≤ daysInMonth year month then some ⟨year, month, day, years, days⟩
    else none
  else none

/-- A year of four digits or more.  A year before zero or beyond 9999 has a sign. -/
def yearText (year : Int) : String :=
  let digits := Text.padded 4 year.natAbs
  if year < 0 then "-" ++ digits else if 9999 < year then "+" ++ digits else digits

def text (d : Date) : String :=
  yearText d.year ++ "-" ++ Text.padded 2 d.month ++ "-" ++ Text.padded 2 d.day

end Date

/-! ## Times of day -/

/-- A time of day.  The nanoseconds reach a whole second further inside a leap second. -/
structure TimeOfDay where
  hour : Nat
  minute : Nat
  second : Nat
  nanosecond : Nat
  clock_bounds : hour < 24 ∧ minute < 60 ∧ second < 60
  nanosecond_bounds : nanosecond < 1000000000 ∨ (second = 59 ∧ nanosecond < 2000000000)

namespace TimeOfDay

def ofParts? (hour minute second nanosecond : Nat) : Option TimeOfDay :=
  if clock : hour < 24 ∧ minute < 60 ∧ second < 60 then
    if nanos : nanosecond < 1000000000 ∨ (second = 59 ∧ nanosecond < 2000000000) then
      some ⟨hour, minute, second, nanosecond, clock, nanos⟩
    else none
  else none

def shownSecond (t : TimeOfDay) : Nat :=
  t.second + t.nanosecond / 1000000000

def clockText (t : TimeOfDay) : String :=
  Text.padded 2 t.hour ++ ":" ++ Text.padded 2 t.minute ++ ":" ++ Text.padded 2 t.shownSecond

/-- The fraction of the second behind a point, in as few groups of three digits as show
it exactly. -/
def fractionText (t : TimeOfDay) : String :=
  let nanos := t.nanosecond % 1000000000
  if nanos = 0 then ""
  else if nanos % 1000000 = 0 then "." ++ Text.padded 3 (nanos / 1000000)
  else if nanos % 1000 = 0 then "." ++ Text.padded 6 (nanos / 1000)
  else "." ++ Text.padded 9 nanos

end TimeOfDay

/-! ## Dates with a time -/

structure DateTime where
  date : Date
  time : TimeOfDay

namespace DateTime

/-- The date and the clock with a space between them; the fraction of the second is left
out. -/
def text (t : DateTime) : String :=
  t.date.text ++ " " ++ t.time.clockText

def utcText (t : DateTime) : String :=
  t.date.text ++ "T" ++ t.time.clockText ++ t.time.fractionText ++ "+00:00"

end DateTime

end SqlAssembly
