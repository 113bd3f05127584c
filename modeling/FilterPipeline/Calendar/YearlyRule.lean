import FilterPipeline.Calendar.Zone

/-!
Rules by which a zone changes its offset twice a year, and the transitions they make.
A rule names a weekday of a month, counted from its start or its end, and a wall clock
time of that day. Published tables of zones give the transitions of the past one by
one and a rule for the years after them.
-/

namespace FilterPipeline

/-- A weekday in a month: `week` is 1 to 4, or 5 for the last one; weekdays are numbered
from Sunday, 0. The seconds count from the midnight of that day. -/
structure YearlyDate where
  month : Nat
  week : Nat
  weekday : Nat
  seconds : Int
deriving DecidableEq, Repr

namespace YearlyDate

/-- The number of the day in a year. Day 0 of the calendar was a Monday. -/
def dayNumber (d : YearlyDate) (year : Nat) : Nat :=
  let first := Civil.dayNumber ⟨year, d.month, 1⟩
  let lead := (d.weekday + 13 - first % 7) % 7
  let length := (monthLengths (isLeapYear year))[d.month - 1]?.getD 28
  let day := first + lead + 7 * (d.week - 1)
  if day < first + length then day else day - 7

/-- The wall clock reading on that day of a year, in microseconds. -/
def wallMicros (d : YearlyDate) (year : Nat) : Int :=
  d.dayNumber year * microsPerDay + d.seconds * microsPerSecond

end YearlyDate

/-- The usual offset, and a seasonal one that is kept between two dates of each year,
both in seconds. Each date is read on the wall clock as it runs up to the change. -/
structure YearlyRule where
  usual : Int
  seasonal : Int
  seasonStart : YearlyDate
  seasonEnd : YearlyDate
deriving DecidableEq, Repr

namespace YearlyRule

/-- The two transitions of a year in their order. -/
def transitions (r : YearlyRule) (year : Nat) : List Transition :=
  let usual := r.usual * microsPerSecond
  let seasonal := r.seasonal * microsPerSecond
  let start : Transition := ⟨r.seasonStart.wallMicros year - usual, seasonal⟩
  let stop : Transition := ⟨r.seasonEnd.wallMicros year - seasonal, usual⟩
  if start.instant ≤ stop.instant then [start, stop] else [stop, start]

/-- The transitions after an instant, from the given year to the end of the calendar. -/
def transitionsAfter (r : YearlyRule) (instant : Int) (year : Nat) : List Transition :=
  ((List.range' year (10000 - year)).flatMap r.transitions).filter (instant < ·.instant)

end YearlyRule

/-- The instant a number of seconds after the first midnight of year 1. -/
def instantOfSeconds (seconds : Nat) : Int := seconds * microsPerSecond

/-- What follows the transitions of a table: nothing, or a rule that takes over after an
instant, given in seconds, of the given year. -/
inductive TableEnd where
  | constant
  | yearly (after year : Nat) (rule : YearlyRule)
deriving DecidableEq, Repr

def TableEnd.transitions : TableEnd → List Transition
  | .constant => []
  | .yearly after year rule => rule.transitionsAfter (instantOfSeconds after) year

/-- A zone from a published table: the offsets it has had, of which the first one is its
offset at the start; its transitions, each with the position of the new offset among
them; and what follows. Offsets and instants are given in seconds. -/
def Zone.ofTable (name : String) (offsets : List Int) (table : List (Nat × Nat))
    (tableEnd : TableEnd) : Zone :=
  let offset (position : Nat) : Int := offsets.getD position 0 * microsPerSecond
  ⟨name, offset 0,
    table.map (fun (seconds, position) => ⟨instantOfSeconds seconds, offset position⟩) ++
      tableEnd.transitions⟩

end FilterPipeline
