import FilterPipeline.Calendar.Clock

/-!
Time zones. A zone has an offset from universal time that changes at given instants;
the changes are listed in order. Instants count microseconds from the first midnight
of year 1, universal time, and may lie outside the calendar.

When the offset grows, some wall clock readings are skipped; when it shrinks, some
occur twice. A reading therefore comes with a flag, `later`, that selects the second
occurrence. In a skipped stretch the flag selects the offset after the change, and its
absence the offset before it.

A moment is a wall clock reading together with the place whose clock reads it.
-/

namespace FilterPipeline

/-- A change of a zone's offset to the given one. -/
structure Transition where
  instant : Int
  offset : Int
deriving DecidableEq, Repr

structure Zone where
  name : String
  /-- The offset before the first transition. -/
  initialOffset : Int
  transitions : List Transition
deriving DecidableEq, Repr

/-- A wall clock reading in some zone. -/
structure Zoned where
  wall : LocalTime
  later : Bool
deriving DecidableEq, Repr

namespace Zone

def utc : Zone := ⟨"UTC", 0, []⟩

/-- The offset in force at an instant, and whether the wall clock passes the same
readings a second time then. `offset` is in force before the transitions, and the
readings of the previous stretch are repeated until `repeatedUntil`. -/
def offsetFrom (offset : Int) (repeatedUntil : Option Int) :
    List Transition → Int → Int × Bool
  | [], u => (offset, repeatedUntil.any (u < ·))
  | t :: ts, u =>
      if u < t.instant then (offset, repeatedUntil.any (u < ·))
      else offsetFrom t.offset (some (t.instant + (offset - t.offset))) ts u

def offsetAt (z : Zone) (instant : Int) : Int × Bool :=
  offsetFrom z.initialOffset none z.transitions instant

/-- The offset that belongs to a wall clock reading. A transition counts as passed once
the reading is past both of its sides, or, for the later occurrence, past the first. -/
def localOffsetFrom (offset : Int) (later : Bool) : List Transition → Int → Int
  | [], _ => offset
  | t :: ts, w =>
      if w < t.instant + (if later then min offset t.offset else max offset t.offset) then offset
      else localOffsetFrom t.offset later ts w

def localOffset (z : Zone) (m : Zoned) : Int :=
  localOffsetFrom z.initialOffset m.later z.transitions m.wall.micros

/-- The wall clock reading at the moment at which universal time reads `u`, unless it
leaves the calendar. -/
def ofUtc? (z : Zone) (u : LocalTime) : Option Zoned :=
  let (offset, later) := z.offsetAt u.micros
  (u.shift? offset).map fun wall => ⟨wall, later⟩

/-- The universal time of a wall clock reading, unless it leaves the calendar. -/
def toUtc? (z : Zone) (m : Zoned) : Option LocalTime := m.wall.shift? (-z.localOffset m)

end Zone

/-- Where a wall clock is read: in whatever zone the reading is used in, at an offset from
universal time, or in a zone of its own. -/
inductive Place where
  | unsaid
  | offset (o : Offset)
  | zone (z : Zone)
deriving DecidableEq, Repr

/-- A wall clock reading and the place of the clock. -/
structure DateTime where
  wall : LocalTime
  later : Bool
  place : Place
deriving DecidableEq, Repr

namespace DateTime

/-- The moment at which universal time reads the given wall clock. -/
def utc (wall : LocalTime) : DateTime := ⟨wall, false, .offset .utc⟩

/-- A reading that is meant wherever it is used. -/
def naive (wall : LocalTime) : DateTime := ⟨wall, false, .unsaid⟩

def reading (m : DateTime) : Zoned := ⟨m.wall, m.later⟩

/-- The offset at which a reading is taken, unless that is left to the zone it is used in. -/
def offset? (m : DateTime) : Option Int :=
  match m.place with
  | .unsaid => none
  | .offset o => some o.micros
  | .zone z => some (z.localOffset m.reading)

/-- The universal time of a moment, if its offset is said and it does not leave the
calendar. -/
def toUtc? (m : DateTime) : Option LocalTime := m.offset?.bind fun o => m.wall.shift? (-o)

/-- A reading of the zone's own clock. -/
def IsLocalTo (m : DateTime) (z : Zone) : Prop := m.place = .unsaid ∨ m.place = .zone z

instance (m : DateTime) (z : Zone) : Decidable (m.IsLocalTo z) :=
  inferInstanceAs (Decidable (_ ∨ _))

end DateTime

/-- The reading of a zone's clock at a moment. A reading of that clock stays as it is, even
where the clock never shows it. -/
def Zone.ofDateTime? (z : Zone) (m : DateTime) : Option Zoned :=
  if m.IsLocalTo z then some m.reading else m.toUtc?.bind z.ofUtc?

namespace Zoned

/-- Another time on the same date, taken for the same of its occurrences. -/
def atTime (m : Zoned) (t : TimeOfDay) : Zoned := { m with wall := .of m.wall.date t }

def startOfDay (m : Zoned) : Zoned := m.atTime .midnight

def endOfDay (m : Zoned) : Zoned := m.atTime .lastMilli

end Zoned

end FilterPipeline
