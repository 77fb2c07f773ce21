import Stencil.Text.Padded

/-!
Days of the calendar, times of the day, and the moments that they make up. The calendar is the
Gregorian one, carried back to the year 1, and ends with the year 9999.
-/

namespace Stencil

namespace Calendar

def isLeap (year : Nat) : Bool := year % 4 == 0 && (year % 100 != 0 || year % 400 == 0)

def monthLengths (year : Nat) : List Nat :=
  [31, if isLeap year then 29 else 28, 31, 30, 31, 30, 31, 31, 30, 31, 30, 31]

def daysInMonth (year month : Nat) : Nat := (monthLengths year).getD (month - 1) 0

def hasDay (year month day : Nat) : Bool :=
  (1 ≤ year && year ≤ 9999) && (1 ≤ month && month ≤ 12) &&
    (1 ≤ day && day ≤ daysInMonth year month)

/-- Whether the day has the time. -/
def hasTime (hour minute second microsecond : Nat) : Bool :=
  (hour < 24 && minute < 60) && (second < 60 && microsecond < 1000000)

def daysBeforeYear (year : Nat) : Nat :=
  let past := year - 1
  365 * past + past / 4 - past / 100 + past / 400

def daysBeforeMonth (year month : Nat) : Nat :=
  ((monthLengths year).take (month - 1)).foldl (· + ·) 0

/-- The month and the day that follow a number of days from the first of `month` on. -/
def monthAndDay (month : Nat) (days : Nat) : List Nat → Nat × Nat
  | [] => (month, days + 1)
  | length :: later =>
    if days < length then (month, days + 1) else monthAndDay (month + 1) (days - length) later

/-- The year in which the given number of days after the first of January of the year 1 lies, and
the days of that year before it. Leap years return after four, a hundred and four hundred years. -/
def yearAndDay (days : Nat) : Nat × Nat :=
  let (fourHundreds, days) := (days / 146097, days % 146097)
  let hundreds := min 3 (days / 36524)
  let days := days - 36524 * hundreds
  let (fours, days) := (days / 1461, days % 1461)
  let ones := min 3 (days / 365)
  (400 * fourHundreds + 100 * hundreds + 4 * fours + ones + 1, days - 365 * ones)

end Calendar

/-- A day of the calendar. -/
structure Date where
  year : Nat
  month : Nat
  day : Nat
  inCalendar : Calendar.hasDay year month day = true
  deriving DecidableEq, Repr

namespace Date

/-- The day with the given numbers, if the calendar has it. -/
def of? (year month day : Nat) : Option Date :=
  if h : Calendar.hasDay year month day = true then some ⟨year, month, day, h⟩ else none

/-- The first day of the calendar. -/
def first : Date := ⟨1, 1, 1, by decide⟩

/-- The last day of the calendar. -/
def last : Date := ⟨9999, 12, 31, by decide⟩

/-- The number of the day, counted from one at the first day of the calendar. -/
def ordinal (date : Date) : Nat :=
  Calendar.daysBeforeYear date.year + Calendar.daysBeforeMonth date.year date.month + date.day

/-- The day that follows a number of days after the first day of the calendar. -/
def afterFirst? (days : Nat) : Option Date :=
  let (year, days) := Calendar.yearAndDay days
  let (month, day) := Calendar.monthAndDay 1 days (Calendar.monthLengths year)
  of? year month day

def toText (date : Date) : String :=
  Text.padded 4 date.year ++ "-" ++ Text.padded 2 date.month ++ "-" ++ Text.padded 2 date.day

theorem of?_self (date : Date) : of? date.year date.month date.day = some date := by
  simp [of?, date.inCalendar]

end Date

/-- A time of the day. -/
structure Clock where
  hour : Nat
  minute : Nat
  second : Nat
  microsecond : Nat
  inDay : Calendar.hasTime hour minute second microsecond = true
  deriving DecidableEq, Repr

namespace Clock

def of? (hour minute second microsecond : Nat) : Option Clock :=
  if h : Calendar.hasTime hour minute second microsecond = true then
    some ⟨hour, minute, second, microsecond, h⟩
  else none

def midnight : Clock := ⟨0, 0, 0, 0, by decide⟩

/-- The last time of the day. -/
def last : Clock := ⟨23, 59, 59, 999999, by decide⟩

def seconds (clock : Clock) : Nat := 3600 * clock.hour + 60 * clock.minute + clock.second

/-- The time with its fraction of a second, which is left out if it is zero. -/
def toText (clock : Clock) : String :=
  Text.padded 2 clock.hour ++ ":" ++ Text.padded 2 clock.minute ++ ":" ++
    Text.padded 2 clock.second ++
    (if clock.microsecond = 0 then "" else "." ++ Text.padded 6 clock.microsecond)

end Clock

/-- A day with a time, and how many minutes its clock is ahead of the world's if that is known. -/
structure Moment where
  date : Date
  clock : Clock
  offset : Option Int
  deriving DecidableEq, Repr

namespace Moment

/-- The first moment of the calendar, on a clock of no known offset. -/
def first : Moment := ⟨.first, .midnight, none⟩

/-- The last moment of the calendar, on a clock of no known offset. -/
def last : Moment := ⟨.last, .last, none⟩

/-- Hours and minutes ahead of the world's clock, with a sign. -/
def offsetText (minutes : Int) : String :=
  (if minutes < 0 then "-" else "+") ++ Text.padded 2 (minutes.natAbs / 60) ++ ":" ++
    Text.padded 2 (minutes.natAbs % 60)

/-- The day and the time, with a separator between them. -/
def toText (separator : String) (moment : Moment) : String :=
  moment.date.toText ++ separator ++ moment.clock.toText ++
    (moment.offset.map offsetText).getD ""

/-- The microseconds since the first day of the calendar, by the world's clock if the offset is
known. -/
def microseconds (moment : Moment) : Int :=
  (86400 * moment.date.ordinal + moment.clock.seconds - 60 * moment.offset.getD 0 : Int) * 1000000 +
    moment.clock.microsecond

/-- How a moment lies to another. Moments are compared only if both offsets are known or neither
is. -/
def compare? (a b : Moment) : Option Ordering :=
  if a.offset.isSome = b.offset.isSome then some (compare a.microseconds b.microseconds) else none

end Moment

end Stencil
