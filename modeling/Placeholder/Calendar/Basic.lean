/-
Dates of the Gregorian calendar, times of day and moments, without time zones.

A time of day may lie in a leap second: its nanoseconds then count on past the end of the second.
-/
import Placeholder.Number.Ratio

namespace Placeholder

namespace Date

def isLeapYear (year : Int) : Bool := year % 4 == 0 && (year % 100 != 0 || year % 400 == 0)

def daysInMonth (year : Int) (month : Nat) : Nat :=
  match month with
  | 2 => if isLeapYear year then 29 else 28
  | 4 | 6 | 9 | 11 => 30
  | _ => 31

def leastYear : Int := -262143

def greatestYear : Int := 262142

def isValid (year : Int) (month day : Nat) : Bool :=
  leastYear ≤ year && year ≤ greatestYear && 1 ≤ month && month ≤ 12 &&
    1 ≤ day && day ≤ daysInMonth year month

end Date

structure Date where
  year : Int
  month : Nat
  day : Nat
  valid : Date.isValid year month day = true := by decide
  deriving DecidableEq

structure TimeOfDay where
  hour : Nat
  minute : Nat
  second : Nat
  nano : Nat
  valid : hour < 24 ∧ minute < 60 ∧ second < 60 ∧ nano < 2000000000 := by decide
  deriving DecidableEq

/-- A date and a time of day. -/
structure Moment where
  date : Date
  time : TimeOfDay
  deriving DecidableEq

namespace Date

def make? (year : Int) (month day : Nat) : Option Date :=
  if h : isValid year month day = true then some ⟨year, month, day, h⟩ else none

/-- The days before the given month of a year. -/
def daysBefore (year : Int) : (month : Nat) → Nat
  | 0 | 1 => 0
  | m + 1 => daysBefore year m + daysInMonth year m

/-- The number of the day in its year, from 1 on. -/
def ordinal (d : Date) : Nat := daysBefore d.year d.month + d.day

/-- The days from the first of January of the year 1 to the first of January of `year`. -/
def daysToYear (year : Int) : Int :=
  let before := year - 1
  365 * before + before / 4 - before / 100 + before / 400

/-- The number of the day; day 0 is the first of January of the year 1, a Monday. -/
def dayNumber (d : Date) : Int := daysToYear d.year + (d.ordinal : Int) - 1

/-- The day of the week: 0 is Monday. -/
def weekday (d : Date) : Nat := (d.dayNumber % 7).toNat

/-- The month and the day of the month of a day that is `rest` days after the start of `month`. -/
def monthAndDay (year : Int) : (fuel month rest : Nat) → Nat × Nat
  | 0, month, rest => (month, rest + 1)
  | fuel + 1, month, rest =>
    if rest < daysInMonth year month then (month, rest + 1)
    else monthAndDay year fuel (month + 1) (rest - daysInMonth year month)

/-- The year in which a day lies. -/
def yearOfDay (n : Int) : Int :=
  let guess := n * 400 / 146097 + 1
  if n < daysToYear guess then guess - 1
  else if daysToYear (guess + 1) ≤ n then guess + 1
  else guess

/-- The date of a day, if it is in range. -/
def ofDayNumber? (n : Int) : Option Date :=
  let year := yearOfDay n
  let (month, day) := monthAndDay year 12 1 (n - daysToYear year).toNat
  make? year month day

end Date

namespace TimeOfDay

def make? (hour minute second nano : Nat) : Option TimeOfDay :=
  if h : hour < 24 ∧ minute < 60 ∧ second < 60 ∧ nano < 2000000000 then
    some ⟨hour, minute, second, nano, h⟩
  else none

def midnight : TimeOfDay := ⟨0, 0, 0, 0, by decide⟩

/-- The seconds since midnight. -/
def seconds (t : TimeOfDay) : Nat := (t.hour * 60 + t.minute) * 60 + t.second

/-- The second, with a leap second counted as one more. -/
def countedSecond (t : TimeOfDay) : Nat := t.second + t.nano / 1000000000

/-- The nanoseconds in the second or leap second. -/
def fraction (t : TimeOfDay) : Nat := t.nano % 1000000000

end TimeOfDay

namespace Moment

/-- The moment that is `seconds` later; the fraction of the second stays as it is. -/
def shift? (m : Moment) (seconds : Int) : Option Moment := do
  let total := (m.time.seconds : Int) + seconds
  let rest := (total % 86400).toNat
  let date ← Date.ofDayNumber? (m.date.dayNumber + total / 86400)
  let time ← TimeOfDay.make? (rest / 3600) (rest / 60 % 60) (rest % 60) m.time.nano
  return ⟨date, time⟩

/-- The moment `seconds` seconds after the start of the year 1970. -/
def ofUnixTime? (seconds : Int) (nano : Nat) : Option Moment := do
  let date ← Date.ofDayNumber? (719162 + seconds / 86400)
  let rest := (seconds % 86400).toNat
  let time ← TimeOfDay.make? (rest / 3600) (rest / 60 % 60) (rest % 60) nano
  return ⟨date, time⟩

end Moment

namespace Calendar

def monthNames : List Text :=
  ["January", "February", "March", "April", "May", "June", "July", "August", "September",
   "October", "November", "December"].map String.toList

def dayNames : List Text :=
  ["Monday", "Tuesday", "Wednesday", "Thursday", "Friday", "Saturday", "Sunday"].map String.toList

/-- The English name of a month, counted from 1. -/
def monthName (month : Nat) : Text := (monthNames[month - 1]?).getD []

/-- The English name of a day of the week, counted from 0 for Monday. -/
def dayName (weekday : Nat) : Text := (dayNames[weekday]?).getD []

/-- A number with leading zeros up to `width` characters, a minus sign included. -/
def padded (width : Nat) (i : Int) : Text :=
  if i < 0 then '-' :: Text.padLeft (width - 1) '0' (Text.ofNat i.natAbs)
  else Text.padLeft width '0' (Text.ofNat i.natAbs)

/-- Two digits. -/
def twoDigits (n : Nat) : Text := Text.padLeft 2 '0' (Text.ofNat n)

/-- A year of four digits or more; outside of the years 0 to 9999 it has a sign. -/
def yearText (year : Int) : Text :=
  if 0 ≤ year ∧ year ≤ 9999 then Text.padLeft 4 '0' (Text.ofNat year.natAbs)
  else (if year < 0 then '-' else '+') :: Text.padLeft 4 '0' (Text.ofNat year.natAbs)

end Calendar

namespace Date

/-- Month, day and year with slashes. -/
def toText (d : Date) : Text :=
  Calendar.twoDigits d.month ++ '/' :: Calendar.twoDigits d.day ++ '/' :: Calendar.yearText d.year

end Date

namespace TimeOfDay

/-- Hour, minute and second with colons; a leap second counts on. -/
def clockText (t : TimeOfDay) : Text :=
  Calendar.twoDigits t.hour ++ ':' :: Calendar.twoDigits t.minute ++
    ':' :: Calendar.twoDigits t.countedSecond

/-- The clock, with seven places of the second if there is a fraction. -/
def toText (t : TimeOfDay) : Text :=
  if t.fraction = 0 then t.clockText
  else t.clockText ++ '.' :: Text.padLeft 7 '0' (Text.ofNat (t.fraction / 100))

end TimeOfDay

namespace Moment

def toText (m : Moment) : Text := m.date.toText ++ ' ' :: m.time.clockText

end Moment

end Placeholder
