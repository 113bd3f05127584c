import FilterPipeline.Calendar.Iso
import FilterPipeline.Calendar.Pattern
import FilterPipeline.Value.Fields

/-!
Moments that filter values stand for. A value is read in a zone: a wall clock without an
offset is the zone's own, any other moment is turned into the zone's wall clock. Stored
moments are universal time, so that every bound goes back through the zone; either way
can leave the calendar.
-/

namespace FilterPipeline

variable [Host]

namespace Zone

def isUtcName (name : String) : Bool := Text.asciiLower name.toList == ['u', 't', 'c']

/-- The zone of a name. Names are compared exactly, except that universal time, which needs
no looking up, may be written in capital or small letters. -/
def resolve (name : String) : Except Error Zone :=
  if isUtcName name then .ok utc
  else
    match Host.zone name with
    | .ok z => .ok z
    | .error .unknown => .error (.unknownZone name)
    | .error .unreadable => .error (.unreadableZone name)

end Zone

/-- The name of a zone that a value gives; only texts do. -/
def Value.zoneName : Value → Except Error String
  | .text name => .ok name
  | v => .error (if v.isKey then .notName else .badKey)

/-- A result that is missing only because it would lie outside the calendar. -/
def inCalendar {α : Type} : Option α → Except Error α
  | some a => .ok a
  | none => .error .outsideCalendar

namespace Zone

def ofDateTime (z : Zone) (m : DateTime) : Except Error Zoned := inCalendar (z.ofDateTime? m)

/-- The universal time of a wall clock reading as a stored value. -/
def toStored (z : Zone) (m : Zoned) : Except Error Value :=
  (inCalendar (z.toUtc? m)).map fun u => .dateTime (.utc u)

end Zone

/-- Reads a text as a moment, by a pattern or, when none is given, by the ISO format. A
pattern that cannot be followed reads nothing. -/
def readMoment (pattern : Value) (cs : List Char) : Except Error (Option DateTime) :=
  if pattern.isTruthy then
    match pattern with
    | .text t =>
        match Pattern.parse? t.toList with
        | none => .ok none
        | some p => if p.hasRepeats then .error .repeatedDirective else .ok (p.read? cs)
    | _ => .error .notPattern
  else .ok (Iso.read? Host.keepsShortOffsets cs)

/-- The moment that a value stands for, if any. A date stands for its midnight. -/
def Value.readDateTime (v pattern : Value) : Except Error (Option DateTime) :=
  match v with
  | .dateTime m => .ok (some m)
  | .date d => .ok (some (.naive (.of d .midnight)))
  | .text s => readMoment pattern (Text.strip s.toList)
  | _ => .ok none

/-- The wall clock reading in a zone at the moment that a value stands for. -/
def Value.readZoned (v : Value) (z : Zone) (pattern : Value) : Except Error (Option Zoned) := do
  match ← v.readDateTime pattern with
  | none => return none
  | some m => return some (← z.ofDateTime m)

/-- The moment that a value is. -/
def Value.momentOrFail : Value → Except Error DateTime
  | .dateTime m => .ok m
  | _ => .error .notMoment

/-- The time of day that a value has. -/
def Value.timeOrFail : Value → Except Error TimeOfDay
  | .time t => .ok t
  | .dateTime m => .ok m.wall.time
  | _ => .error .notMoment

/-- The time of day in a zone at present; a time of day is taken to be the zone's own. -/
def Zone.presentTime (z : Zone) : Value → Except Error TimeOfDay
  | .time t => .ok t
  | now => do
      let m ← z.ofDateTime (← now.momentOrFail)
      return m.wall.time

/-- The time of day that a value stands for. -/
def Value.toTime? : Value → Option TimeOfDay
  | .time t => some t
  | .text s =>
      let cs := Text.strip s.toList
      Pattern.timesOfDay.findSome? fun p => (p.read? cs).map fun m => m.wall.time
  | _ => none

end FilterPipeline
