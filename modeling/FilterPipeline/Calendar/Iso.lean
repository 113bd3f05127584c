import FilterPipeline.Calendar.Zone
import FilterPipeline.Text.Digit

/-!
ISO 8601 texts of dates, times and moments. Writing uses the extended format. Reading
also takes the basic format, week dates, any one character between date and time, a
comma for the point, fractions of any length (cut to microseconds) and offsets with
seconds. Whatever is not such a text has no reading.
-/

namespace FilterPipeline

open Text

def Date.isoText (d : Date) : List Char :=
  let c := d.civil
  padded 4 c.year ++ '-' :: padded 2 c.month ++ '-' :: padded 2 c.day

/-- A fraction of a second is written only if there is one. -/
def fractionText (micro : Nat) : List Char := if micro = 0 then [] else '.' :: padded 6 micro

def TimeOfDay.isoText (t : TimeOfDay) : List Char :=
  padded 2 t.hour ++ ':' :: padded 2 t.minute ++ ':' :: padded 2 t.second ++ fractionText t.micro

/-- Hours and minutes of an offset with its sign; seconds and their fraction only if
they are not zero. -/
def offsetText (micros : Int) : List Char :=
  let n := micros.natAbs
  let seconds := n / microsPerSecond
  let micro := n % microsPerSecond
  (if micros < 0 then '-' else '+') :: padded 2 (seconds / 3600) ++ ':' ::
    padded 2 (seconds / 60 % 60) ++
    (if seconds % 60 = 0 ∧ micro = 0 then [] else ':' :: padded 2 (seconds % 60)) ++
    fractionText micro

/-- Date and time with the given character between them, and the offset if it is said. -/
def DateTime.text (between : Char) (m : DateTime) : List Char :=
  m.wall.date.isoText ++ between :: m.wall.time.isoText ++
    match m.offset? with
    | none => []
    | some micros => offsetText micros

def DateTime.isoText (m : DateTime) : List Char := m.text 'T'

namespace Iso

/-- A date in year, month and day after the year was read; `dashed` says whether its
parts are separated. -/
def readMonthDay? (year : Nat) (dashed : Bool) (cs : List Char) : Option (Date × List Char) := do
  let (month, cs) ← takeNumber? 2 cs
  let cs ← if dashed then (match cs with | '-' :: cs => some cs | _ => none) else some cs
  let (day, cs) ← takeNumber? 2 cs
  let date ← Date.ofCivil? ⟨year, month, day⟩
  return (date, cs)

/-- The day after a week number in the basic format. Digits that follow the week could
also be the start of a time with its first digit as the separating character: a single
digit is the day, and of more the first is the day if their number is even. -/
def readBasicWeekday (cs : List Char) : Nat × List Char :=
  let count := (cs.takeWhile isAsciiDigit).length
  match cs with
  | c :: rest => if count = 1 ∨ (count ≠ 0 ∧ count % 2 = 0) then (asciiDigitValue c, rest)
      else (1, cs)
  | [] => (1, [])

/-- The day after a week number in the extended format: a dash and a digit, unless a
second digit shows that the dash separates a time from the date. -/
def readDashedWeekday? : List Char → Option (Nat × List Char)
  | '-' :: c :: d :: rest =>
      if isAsciiDigit d then some (1, '-' :: c :: d :: rest)
      else if isAsciiDigit c then some (asciiDigitValue c, d :: rest) else none
  | ['-', c] => if isAsciiDigit c then some (asciiDigitValue c, []) else none
  | ['-'] => none
  | cs => some (1, cs)

def readWeekDay? (year : Nat) (dashed : Bool) (cs : List Char) : Option (Date × List Char) := do
  let (week, cs) ← takeNumber? 2 cs
  let (day, cs) ← if dashed then readDashedWeekday? cs else some (readBasicWeekday cs)
  let date ← Date.ofWeek? year week day
  return (date, cs)

/-- Reads a date at the front of a text, and gives what follows it. -/
def readDate? (cs : List Char) : Option (Date × List Char) := do
  let (year, cs) ← takeNumber? 4 cs
  match cs with
  | '-' :: 'W' :: rest => readWeekDay? year true rest
  | '-' :: rest => readMonthDay? year true rest
  | 'W' :: rest => readWeekDay? year false rest
  | rest => readMonthDay? year false rest

/-- What a clock text says: hours, minutes, seconds and microseconds, none of them
checked for its range, and whether the text ended with them. -/
structure ClockReading where
  hour : Nat
  minute : Nat
  second : Nat
  micro : Nat
  complete : Bool
deriving DecidableEq, Repr

/-- A text is at its end when nothing or a NUL character comes next. -/
def atEnd : List Char → Bool
  | [] => true
  | c :: _ => c == '\x00'

/-- The digits after the point, cut to six; a shorter fraction is filled with zeros. -/
def readFraction? (cs : List Char) : Option (Nat × Bool) :=
  let digits := cs.take 6
  if digits.all isAsciiDigit then
    some (asciiNumber digits * Nat.pow 10 (6 - digits.length),
      atEnd ((cs.drop 6).dropWhile isAsciiDigit))
  else none

/-- What follows a two-digit field: the end of the text, the next field, or the
fraction. -/
inductive FieldEnd where
  | done (complete : Bool)
  | field (rest : List Char)
  | fraction (rest : List Char)

/-- Decides how a text goes on after a field. In a text with colons every field but the
last has one after it; a single ASCII character at the end closes the reading whatever it
is. -/
def fieldEnd? (colons : Bool) : List Char → Option FieldEnd
  | [] => some (.done true)
  | [c] => if c.toNat < 128 then some (.done (c == '\x00')) else none
  | c :: rest =>
      if colons ∧ c = ':' then some (.field rest)
      else if c = '.' ∨ c = ',' then some (.fraction rest)
      else if colons then none
      else some (.field (c :: rest))

/-- Reads hours, minutes and seconds, of which the later ones may be missing. The
fraction may follow any field, and after the seconds it needs no point. -/
def readClock? (cs : List Char) : Option ClockReading := do
  let (hour, cs) ← takeNumber? 2 cs
  let colons := cs.head? == some ':'
  match ← fieldEnd? colons cs with
  | .done complete => return ⟨hour, 0, 0, 0, complete⟩
  | .fraction cs =>
    let (micro, complete) ← readFraction? cs
    return ⟨hour, 0, 0, micro, complete⟩
  | .field cs =>
    let (minute, cs) ← takeNumber? 2 cs
    match ← fieldEnd? colons cs with
    | .done complete => return ⟨hour, minute, 0, 0, complete⟩
    | .fraction cs =>
      let (micro, complete) ← readFraction? cs
      return ⟨hour, minute, 0, micro, complete⟩
    | .field cs =>
      let (second, cs) ← takeNumber? 2 cs
      match ← fieldEnd? colons cs with
      | .done complete => return ⟨hour, minute, second, 0, complete⟩
      | .fraction cs | .field cs =>
        let (micro, complete) ← readFraction? cs
        return ⟨hour, minute, second, micro, complete⟩

/-- Reads an offset after its sign. Unless short offsets are kept, a fraction of a second
alone does not make one. -/
def readOffset? (keepsShort negative : Bool) (cs : List Char) : Option Offset := do
  let r ← readClock? cs
  if !r.complete then none
  else
    let seconds := (r.hour * 60 + r.minute) * 60 + r.second
    if seconds = 0 ∧ !keepsShort then some .utc
    else
      let micros : Int := seconds * microsPerSecond + r.micro
      Offset.ofMicros? (if negative then -micros else micros)

def isOffsetMark (c : Char) : Bool := c = '+' ∨ c = '-' ∨ c = 'Z'

/-- Reads a time and the offset after it. A time that stands alone has to end the text. -/
def readTime? (keepsShort : Bool) (cs : List Char) : Option (TimeOfDay × Place) := do
  let r ← readClock? (cs.takeWhile (!isOffsetMark ·))
  let time ← TimeOfDay.ofClock? r.hour r.minute r.second r.micro
  match cs.dropWhile (!isOffsetMark ·) with
  | [] => if r.complete then some (time, .unsaid) else none
  | 'Z' :: rest => if atEnd rest then some (time, .offset .utc) else none
  | sign :: rest => (readOffset? keepsShort (sign = '-') rest).map fun o => (time, .offset o)

/-- Reads a whole text as a date, alone or with a time after any one character. -/
def read? (keepsShort : Bool) (cs : List Char) : Option DateTime := do
  let (date, rest) ← readDate? cs
  match rest with
  | [] => return .naive (.of date .midnight)
  | _ :: rest =>
    let (time, place) ← readTime? keepsShort rest
    return ⟨.of date time, false, place⟩

end Iso

end FilterPipeline
