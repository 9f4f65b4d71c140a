/-
Points in time as the directory stores them: a date of the proleptic Gregorian calendar, a time of
day to the microsecond, and the distance from universal time, if it is known. What can be built is
exactly what is valid; `ofFields` names the first field that is not.
-/

namespace UserDirectory

/-! ### The calendar -/

namespace Calendar

/-- The years the calendar covers. -/
def yearBounds : Nat × Nat := (1, 9999)

/-- Whether a year has a 29 February. -/
def isLeap (year : Nat) : Bool :=
  year % 4 == 0 && (year % 100 != 0 || year % 400 == 0)

/-- The number of days of a month. -/
def daysInMonth (year month : Nat) : Nat :=
  if month = 2 then (if isLeap year then 29 else 28)
  else if month = 4 ∨ month = 6 ∨ month = 9 ∨ month = 11 then 30
  else 31

/-- The number of days of a year. -/
def daysInYear (year : Nat) : Nat :=
  if isLeap year then 366 else 365

/-- The number of days before 1 January of a year, counted from the start of year 1. -/
def daysBeforeYear (year : Nat) : Nat :=
  let past := year - 1
  past * 365 + past / 4 - past / 100 + past / 400

/-- The weekday of 1 January, Monday being 0. -/
def firstWeekday (year : Nat) : Nat :=
  daysBeforeYear year % 7

/-- The number of weeks in a week-numbered year: 53 if it starts on a Thursday, or on a Wednesday
and is a leap year. -/
def weeksInYear (year : Nat) : Nat :=
  if firstWeekday year = 3 ∨ (firstWeekday year = 2 ∧ isLeap year) then 53 else 52

/-- Find the month and the day in it of the `day`-th day of a year, counted from zero. -/
def monthAndDay (year : Nat) : (month remaining : Nat) → (day : Nat) → Nat × Nat
  | month, 0, day => (month, day + 1)
  | month, remaining + 1, day =>
    let days := daysInMonth year month
    if day < days then (month, day + 1) else monthAndDay year (month + 1) remaining (day - days)

/-- The date of a day of a week-numbered year: week 1 is the one with the first Thursday, and day 1
is Monday. There is none for a week or day out of range. The last days of the last year fall into
the year behind it, and the days of the year before the first one into a month that does not
exist. -/
def ofWeek? (year week day : Nat) : Option (Nat × Nat × Nat) :=
  if week < 1 ∨ weeksInYear year < week then none
  else if day < 1 ∨ 7 < day then none
  else if year < yearBounds.1 then some (yearBounds.1, 0, day)
  else
    let weekday := firstWeekday year
    -- the Monday of week 1, as a day of the year counted from zero
    let monday : Int := if weekday ≤ 3 then -weekday else 7 - weekday
    let offset : Int := monday + 7 * (week - 1 : Nat) + (day - 1 : Nat)
    if offset < 0 then
      let (month, day) := monthAndDay (year - 1) 1 11 (daysInYear (year - 1) + offset).toNat
      some (year - 1, month, day)
    else if offset < daysInYear year then
      let (month, day) := monthAndDay year 1 11 offset.toNat
      some (year, month, day)
    else
      let (month, day) := monthAndDay (year + 1) 1 11 (offset.toNat - daysInYear year)
      some (year + 1, month, day)

end Calendar

/-! ### Points in time -/

/-- A date, a time of day and the offset from universal time in microseconds. Without an offset the
time is a wall-clock reading of an unknown place. -/
structure Timestamp where
  /-- The year. -/
  year : Nat
  /-- The month, from 1. -/
  month : Nat
  /-- The day of the month, from 1. -/
  day : Nat
  /-- The hour of the day. -/
  hour : Nat
  /-- The minute of the hour. -/
  minute : Nat
  /-- The second of the minute. -/
  second : Nat
  /-- The microsecond of the second. -/
  microsecond : Nat
  /-- How far the clock is ahead of universal time, in microseconds. -/
  offset : Option Int
deriving Repr, DecidableEq

namespace Timestamp

/-- Why a text or a choice of fields names no point in time. -/
inductive Problem where
  /-- The text is not written as one. -/
  | unreadable (text : String)
  /-- The offset, in microseconds, is a day or more. -/
  | farOffset (offset : Int)
  /-- The year lies outside the calendar. -/
  | year (number : Int)
  /-- There is no such month. -/
  | month
  /-- The month has no such day. -/
  | day
  /-- There is no such hour. -/
  | hour
  /-- There is no such minute. -/
  | minute
  /-- There is no such second. -/
  | second
  /-- There is no such microsecond. -/
  | microsecond
deriving Repr, DecidableEq

/-- The microseconds of a second. -/
def perSecond : Nat := 1000000

/-- The microseconds of a day, which an offset must stay below in both directions. -/
def perDay : Nat := 86400 * perSecond

/-- Whether an offset is less than a day. -/
def nearOffset (offset : Int) : Bool :=
  offset.natAbs < perDay

/-- The fields name a point in time. -/
structure Valid (moment : Timestamp) : Prop where
  /-- The year lies in the calendar. -/
  year : Calendar.yearBounds.1 ≤ moment.year ∧ moment.year ≤ Calendar.yearBounds.2
  /-- The month exists. -/
  month : 1 ≤ moment.month ∧ moment.month ≤ 12
  /-- The month has that day. -/
  day : 1 ≤ moment.day ∧ moment.day ≤ Calendar.daysInMonth moment.year moment.month
  /-- The hour exists. -/
  hour : moment.hour < 24
  /-- The minute exists. -/
  minute : moment.minute < 60
  /-- The second exists; leap seconds do not. -/
  second : moment.second < 60
  /-- The microsecond exists. -/
  microsecond : moment.microsecond < perSecond
  /-- The offset is less than a day. -/
  offset : ∀ offset ∈ moment.offset, nearOffset offset

/-- Build a point in time from any whole numbers, or name the first field that is out of range: the
offset, then the date from the year down, then the time of day. -/
def ofFields (year month day hour minute second microsecond : Int) (offset : Option Int) :
    Except Problem Timestamp := do
  if let some far := offset.filter (!nearOffset ·) then throw (.farOffset far)
  if year < Calendar.yearBounds.1 ∨ (Calendar.yearBounds.2 : Int) < year then throw (.year year)
  if month < 1 ∨ 12 < month then throw .month
  if day < 1 ∨ (Calendar.daysInMonth year.toNat month.toNat : Int) < day then throw .day
  if hour < 0 ∨ 23 < hour then throw .hour
  if minute < 0 ∨ 59 < minute then throw .minute
  if second < 0 ∨ 59 < second then throw .second
  if microsecond < 0 ∨ (perSecond : Int) ≤ microsecond then throw .microsecond
  pure ⟨year.toNat, month.toNat, day.toNat, hour.toNat, minute.toNat, second.toNat,
    microsecond.toNat, offset⟩

end Timestamp

end UserDirectory
