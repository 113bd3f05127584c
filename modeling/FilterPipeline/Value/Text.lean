import FilterPipeline.Calendar.Iso
import FilterPipeline.Error

/-!
The text of a value, against which text searches run. A value on its own is written
plainly; inside a collection texts are quoted and moments are spelled out by their
parts. Long integers have no text, and neither has what they are part of.
-/

namespace FilterPipeline.Value

open Text

def integerText (n : Int) : List Char :=
  if n < 0 then '-' :: decimal n.natAbs else decimal n.natAbs

/-- Texts with a comma and a space between them. -/
def commaSeparated : List (List Char) → List Char
  | [] => []
  | [t] => t
  | t :: ts => t ++ ',' :: ' ' :: commaSeparated ts

def call (name : String) (arguments : List (List Char)) : List Char :=
  name.toList ++ '(' :: commaSeparated arguments ++ [')']

/-- The parts of a time of day; zero seconds and zero microseconds are left out. -/
def timeParts (t : TimeOfDay) : List (List Char) :=
  let parts := [t.hour, t.minute] ++
    if t.micro ≠ 0 then [t.second, t.micro] else if t.second ≠ 0 then [t.second] else []
  parts.map decimal

def dateParts (d : Date) : List (List Char) :=
  let c := d.civil
  [c.year, c.month, c.day].map decimal

/-- An offset as a number of days, seconds and microseconds, of which only the days
may be negative; parts that are zero are left out. -/
def durationParts (micros : Int) : List (List Char) :=
  let days := micros / microsPerDay
  let rest := (micros % microsPerDay).toNat
  let seconds := rest / microsPerSecond
  let micro := rest % microsPerSecond
  let parts :=
    (if days = 0 then [] else ["days=".toList ++ integerText days]) ++
    (if seconds = 0 then [] else ["seconds=".toList ++ decimal seconds]) ++
    (if micro = 0 then [] else ["microseconds=".toList ++ decimal micro])
  if parts = [] then [['0']] else parts

def placePart : Place → List (List Char)
  | .unsaid => []
  | .offset o => ["tzinfo=".toList ++
      if o.micros = 0 then "datetime.timezone.utc".toList
      else call "datetime.timezone" [call "datetime.timedelta" (durationParts o.micros)]]
  | .zone z => ["tzinfo=".toList ++
      call "zoneinfo.ZoneInfo" ["key=".toList ++ quote z.name.toList]]

def dateTimeParts (m : DateTime) : List (List Char) :=
  dateParts m.wall.date ++ timeParts m.wall.time ++
    (if m.later then ["fold=1".toList] else []) ++ placePart m.place

mutual

/-- The text of a value inside a collection. -/
def spelling : Value → List Char
  | .null => "None".toList
  | .bool b => (if b then "True" else "False").toList
  | .int n => integerText n
  | .float x => x.text
  | .text s => quote s.toList
  | .list vs => '[' :: commaSeparated (spellings vs) ++ [']']
  | .tuple [v] => '(' :: spelling v ++ [',', ')']
  | .tuple vs => '(' :: commaSeparated (spellings vs) ++ [')']
  | .set [] => "set()".toList
  | .set vs => '\x7b' :: commaSeparated (spellings vs) ++ ['\x7d']
  | .document fields => '\x7b' :: commaSeparated (fieldSpellings fields) ++ ['\x7d']
  | .dateTime m => call "datetime.datetime" (dateTimeParts m)
  | .date d => call "datetime.date" (dateParts d)
  | .time t => call "datetime.time" (timeParts t)
  | .id oid => call "ObjectId" ['\'' :: oid.text ++ ['\'']]

def spellings : List Value → List (List Char)
  | [] => []
  | v :: vs => spelling v :: spellings vs

def fieldSpellings : List (Value × Value) → List (List Char)
  | [] => []
  | (key, v) :: fields => (spelling key ++ ':' :: ' ' :: spelling v) :: fieldSpellings fields

end

/-- The text of a value on its own. -/
def plainText : Value → List Char
  | .text s => s.toList
  | .dateTime m => m.text ' '
  | .date d => d.isoText
  | .time t => t.isoText
  | .id oid => oid.text
  | v => v.spelling

mutual

/-- Whether no integer in a value is too long to be written. -/
def isWritable : Value → Bool
  | .int n => (decimal n.natAbs).length ≤ maxIntegerDigits
  | .list vs | .tuple vs | .set vs => areWritable vs
  | .document fields => areFieldsWritable fields
  | _ => true

def areWritable : List Value → Bool
  | [] => true
  | v :: vs => v.isWritable && areWritable vs

def areFieldsWritable : List (Value × Value) → Bool
  | [] => true
  | (key, v) :: fields => key.isWritable && v.isWritable && areFieldsWritable fields

end

/-- Writes a value on its own. -/
def write (v : Value) : Except Error (List Char) :=
  if v.isWritable then .ok v.plainText else .error .tooManyDigits

/-- Writes a value as a collection would write it. -/
def spell (v : Value) : Except Error (List Char) :=
  if v.isWritable then .ok v.spelling else .error .tooManyDigits

end FilterPipeline.Value
