import FilterPipeline.Calendar.Date

/-!
Clock readings. All of them count microseconds: a time of day from midnight, a wall clock
from the first midnight of year 1. An offset is the distance of a wall clock from universal
time, less than a day either way.
-/

namespace FilterPipeline

def microsPerSecond : Nat := 1000000

def microsPerDay : Nat := 86400000000

structure TimeOfDay where
  micros : Nat
  inRange : micros < microsPerDay
deriving DecidableEq, Repr

namespace TimeOfDay

def ofClock? (hour minute second micro : Nat) : Option TimeOfDay :=
  let micros := ((hour * 60 + minute) * 60 + second) * microsPerSecond + micro
  if h : hour < 24 ∧ minute < 60 ∧ second < 60 ∧ micro < microsPerSecond ∧
      micros < microsPerDay then
    some ⟨micros, h.2.2.2.2⟩
  else none

def midnight : TimeOfDay := ⟨0, by decide⟩

/-- The last millisecond of a day, to which stored dates are exact. -/
def lastMilli : TimeOfDay := ⟨86399999000, by decide⟩

def hour (t : TimeOfDay) : Nat := t.micros / 3600000000

def minute (t : TimeOfDay) : Nat := t.micros / 60000000 % 60

def second (t : TimeOfDay) : Nat := t.micros / microsPerSecond % 60

def micro (t : TimeOfDay) : Nat := t.micros % microsPerSecond

/-- Milliseconds since midnight. -/
def millis (t : TimeOfDay) : Nat := t.micros / 1000

/-- Milliseconds since midnight at the start of the second. -/
def wholeSecondMillis (t : TimeOfDay) : Nat := t.micros / microsPerSecond * 1000

end TimeOfDay

/-- The microseconds of the calendar. -/
def calendarMicros : Nat := calendarDays * microsPerDay

/-- A date and a time of day without a place. -/
structure LocalTime where
  micros : Nat
  inRange : micros < calendarMicros
deriving DecidableEq, Repr

namespace LocalTime

def ofMicros? (n : Int) : Option LocalTime :=
  if h : 0 ≤ n ∧ n.toNat < calendarMicros then some ⟨n.toNat, h.2⟩ else none

/-- The given time on the given date. -/
def of (d : Date) (t : TimeOfDay) : LocalTime :=
  ⟨d.dayNumber * microsPerDay + t.micros, by
    have hd := d.inRange
    have ht := t.inRange
    unfold calendarMicros
    unfold microsPerDay at *
    omega⟩

def date (w : LocalTime) : Date :=
  ⟨w.micros / microsPerDay, Nat.div_lt_of_lt_mul (Nat.mul_comm .. ▸ w.inRange)⟩

def time (w : LocalTime) : TimeOfDay :=
  ⟨w.micros % microsPerDay, Nat.mod_lt _ (by decide)⟩

/-- The wall clock moved by a number of microseconds, unless that leaves the calendar. -/
def shift? (w : LocalTime) (micros : Int) : Option LocalTime := ofMicros? (w.micros + micros)

end LocalTime

/-- The distance of a wall clock ahead of universal time. -/
structure Offset where
  micros : Int
  inRange : micros.natAbs < microsPerDay
deriving DecidableEq, Repr

namespace Offset

def ofMicros? (n : Int) : Option Offset :=
  if h : n.natAbs < microsPerDay then some ⟨n, h⟩ else none

def utc : Offset := ⟨0, by decide⟩

end Offset

end FilterPipeline
