/-!
Calendar dates of the years 1 to 9999 in the Gregorian calendar, extended backwards
before its adoption. A date is the number of days since the first day of year 1,
which was a Monday; year, month and day are read off that number.
-/

namespace FilterPipeline

/-- The days of the years 1 to `years`. -/
def daysOfYears (years : Nat) : Nat := 365 * years + years / 4 - years / 100 + years / 400

def isLeapYear (year : Nat) : Bool := year % 4 == 0 && (year % 100 != 0 || year % 400 == 0)

/-- How many days the calendar has: those of the years 1 to 9999. -/
def calendarDays : Nat := 3652059

structure Date where
  dayNumber : Nat
  inRange : dayNumber < calendarDays
deriving DecidableEq, Repr

/-- A year, a month and a day of the month, not necessarily of a date that exists. -/
structure Civil where
  year : Nat
  month : Nat
  day : Nat
deriving DecidableEq, Repr

def monthLengths (leap : Bool) : List Nat :=
  [31, if leap then 29 else 28, 31, 30, 31, 30, 31, 31, 30, 31, 30, 31]

def totalLength : List Nat → Nat
  | [] => 0
  | length :: rest => length + totalLength rest

namespace Civil

def isValid (c : Civil) : Bool :=
  1 ≤ c.year ∧ c.year ≤ 9999 ∧ 1 ≤ c.day ∧ 1 ≤ c.month ∧
    (monthLengths (isLeapYear c.year))[c.month - 1]?.any (c.day ≤ ·)

/-- The days of the year before this one. -/
def dayOfYear (c : Civil) : Nat :=
  totalLength ((monthLengths (isLeapYear c.year)).take (c.month - 1)) + (c.day - 1)

def dayNumber (c : Civil) : Nat := daysOfYears (c.year - 1) + c.dayOfYear

end Civil

namespace Date

def ofDayNumber? (n : Int) : Option Date :=
  if h : 0 ≤ n ∧ n.toNat < calendarDays then some ⟨n.toNat, h.2⟩ else none

def ofCivil? (c : Civil) : Option Date := if c.isValid then ofDayNumber? c.dayNumber else none

/-- The full years before a day. A cycle of 400 years has 146097 days, and counting
in whole cycles gives the number of years or one less. -/
def yearsBefore (dayNumber : Nat) : Nat :=
  let guess := 400 * dayNumber / 146097
  if daysOfYears (guess + 1) ≤ dayNumber then guess + 1 else guess

/-- Splits a day of the year into the months before it and the days of its month
before it. -/
def splitMonths : List Nat → Nat → Nat × Nat
  | [], n => (0, n)
  | length :: rest, n =>
      if n < length then (0, n)
      else
        let (months, days) := splitMonths rest (n - length)
        (months + 1, days)

def civil (d : Date) : Civil :=
  let years := yearsBefore d.dayNumber
  let (months, days) :=
    splitMonths (monthLengths (isLeapYear (years + 1))) (d.dayNumber - daysOfYears years)
  ⟨years + 1, months + 1, days + 1⟩

/-- Days since the last Monday. -/
def weekday (d : Date) : Nat := d.dayNumber % 7

end Date

/-- The day number of the Monday of a year's first week, which is the week that has
the first Thursday of the year. -/
def firstMonday (year : Nat) : Int :=
  let newYear := daysOfYears (year - 1)
  let monday : Int := newYear - newYear % 7
  if 3 < newYear % 7 then monday + 7 else monday

/-- A year has 53 weeks if it starts on a Thursday, or on a Wednesday and is leap. -/
def weeksOfYear (year : Nat) : Nat :=
  let newYear := daysOfYears (year - 1) % 7
  if newYear = 3 ∨ (newYear = 2 ∧ isLeapYear year) then 53 else 52

/-- The date of a day of a week; days of the week are numbered from Monday, 1. -/
def Date.ofWeek? (year week day : Nat) : Option Date :=
  if 1 ≤ year ∧ year ≤ 9999 ∧ 1 ≤ week ∧ week ≤ weeksOfYear year ∧ 1 ≤ day ∧ day ≤ 7 then
    Date.ofDayNumber? (firstMonday year + 7 * (week - 1 : Nat) + (day - 1 : Nat))
  else none

end FilterPipeline
