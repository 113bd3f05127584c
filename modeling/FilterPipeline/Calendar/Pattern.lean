import FilterPipeline.Calendar.Zone
import FilterPipeline.Calendar.Pattern.Directive
import FilterPipeline.Text.Blank

/-!
Date patterns. A pattern is a text in which directives such as `%Y` stand for parts of a
moment, white space stands for white space of any length, and everything else for
itself in any case. A text is read by the first way in which the pattern fits it; the
parts are then put together, and what they do not say is filled in from the first
midnight of 1900.
-/

namespace FilterPipeline

open Text

inductive PatternItem where
  | literal (c : Char)
  | blanks
  | directive (d : Directive)
deriving DecidableEq, Repr

abbrev Pattern := List PatternItem

namespace Pattern

/-- What a letter after a percent sign stands for. Three letters stand for whole dates and
times as they are written in the usual locale. -/
def itemsOfLetter? : Char → Option Pattern
  | 'c' => some [
      .directive .shortDayName, .blanks, .directive .shortMonthName, .blanks, .directive .day,
      .blanks, .directive .hour, .literal ':', .directive .minute, .literal ':',
      .directive .second, .blanks, .directive .year]
  | 'x' => some [
      .directive .month, .literal '/', .directive .day, .literal '/', .directive .shortYear]
  | 'X' => some [
      .directive .hour, .literal ':', .directive .minute, .literal ':', .directive .second]
  | c => (Directive.ofLetter? c).map fun d => [.directive d]

/-- Takes a pattern text apart, unless it has a percent sign without a directive.
`afterBlank` says that a stretch of white space has been opened. -/
def parseFrom? (afterBlank : Bool) : List Char → Option Pattern
  | [] => some []
  | '%' :: '%' :: cs => (parseFrom? false cs).map (.literal '%' :: ·)
  | '%' :: c :: cs => do
      let front ← itemsOfLetter? c
      let items ← parseFrom? false cs
      return front ++ items
  | ['%'] => none
  | c :: cs =>
      if isBlank c then
        (parseFrom? true cs).map fun items => if afterBlank then items else .blanks :: items
      else (parseFrom? false cs).map (.literal c :: ·)

def parse? (cs : List Char) : Option Pattern := parseFrom? false cs

def directives (p : Pattern) : List Directive :=
  p.filterMap fun
    | .directive d => some d
    | _ => none

/-- Whether some directive occurs twice, so that it would have two values. -/
def hasRepeats (p : Pattern) : Bool := !decide p.directives.Nodup

/-- What the directives of a pattern stand for in a text, in the order of the pattern. -/
abbrev Captures := List (Directive × List Char)

/-- The first way in which a pattern fits the front of a text, and what follows. -/
def firstFit? : Pattern → List Char → Option (Captures × List Char)
  | [], cs => some ([], cs)
  | .literal _ :: _, [] => none
  | .literal a :: items, c :: cs => if sameLetter a c then firstFit? items cs else none
  | .blanks :: items, cs => (Shape.run isBlank cs).findSome? fun (_, rest) => firstFit? items rest
  | .directive d :: items, cs =>
      (d.shape cs).findSome? fun (taken, rest) =>
        (firstFit? items rest).map fun (captures, rest) => ((d, taken) :: captures, rest)

/-- The first fit, if it leaves nothing of the text. -/
def fit? (p : Pattern) (cs : List Char) : Option Captures :=
  match firstFit? p cs with
  | some (captures, []) => some captures
  | _ => none

end Pattern

/-- What a text says about a moment. Days of the week count from Monday, 0. -/
structure MomentParts where
  year : Option Nat
  weekYear : Option Nat
  month : Nat
  day : Nat
  hour : Nat
  minute : Nat
  second : Nat
  micro : Nat
  weekday : Option Nat
  dayOfYear : Option Int
  /-- A week of the year and whether weeks start on Monday rather than on Sunday. -/
  week : Option (Nat × Bool)
  isoWeek : Option Nat
  place : Place
deriving DecidableEq, Repr

namespace MomentParts

def unsaid : MomentParts :=
  ⟨none, none, 1, 1, 0, 0, 0, 0, none, none, none, none, .unsaid⟩

/-- A fraction of a second in microseconds. -/
def microsOfFraction (cs : List Char) : Nat := spelledNumber cs * Nat.pow 10 (6 - cs.length)

/-- The seconds of an offset and their fraction, after the hours and minutes. -/
def readOffsetSeconds? : List Char → Option (Nat × Nat)
  | [] => some (0, 0)
  | [a, b] => some (spelledNumber [a, b], 0)
  | a :: b :: '.' :: cs => some (spelledNumber [a, b], microsOfFraction cs)
  | _ => none

/-- Reads an offset. Colons stand between all of its parts or between none. -/
def readOffset? : List Char → Option Offset
  | ['Z'] => some .utc
  | sign :: h₁ :: h₂ :: cs => do
      let colons := cs.head? == some ':'
      let cs := if colons then cs.drop 1 else cs
      let minutes := spelledNumber (cs.take 2)
      let rest ← match colons, cs.drop 2 with
        | true, ':' :: rest => some rest
        | true, [] => some []
        | true, _ => none
        | false, ':' :: _ => none
        | false, rest => some rest
      let (seconds, micro) ← readOffsetSeconds? rest
      let micros : Int :=
        ((spelledNumber [h₁, h₂] * 60 + minutes) * 60 + seconds) * microsPerSecond + micro
      Offset.ofMicros? (if sign = '-' then -micros else micros)
  | _ => none

/-- The position of a name in a list of small-letter names. -/
def namePosition? (names : List (List Char)) (cs : List Char) : Option Nat :=
  names.findIdx? (· == asciiLower cs)

/-- An hour of the given half of the day; twelve is the first hour of a half. -/
def hourOfDay (afternoon : Bool) (hour : Nat) : Nat :=
  hour % 12 + if afternoon then 12 else 0

/-- Adds what one directive stands for. Of directives for the same part the last one in
the pattern counts. -/
def say? (afternoon : Bool) (parts : MomentParts) :
    Directive × List Char → Option MomentParts
  | (.day, cs) => some { parts with day := spelledNumber cs }
  | (.month, cs) => some { parts with month := spelledNumber cs }
  | (.year, cs) => some { parts with year := some (spelledNumber cs) }
  | (.shortYear, cs) =>
      let n := spelledNumber cs
      some { parts with year := some (if n ≤ 68 then 2000 + n else 1900 + n) }
  | (.weekYear, cs) => some { parts with weekYear := some (spelledNumber cs) }
  | (.hour, cs) => some { parts with hour := spelledNumber cs }
  | (.hourOfHalf, cs) => some { parts with hour := hourOfDay afternoon (spelledNumber cs) }
  | (.half, _) => some parts
  | (.minute, cs) => some { parts with minute := spelledNumber cs }
  | (.second, cs) => some { parts with second := spelledNumber cs }
  | (.fraction, cs) => some { parts with micro := microsOfFraction cs }
  | (.dayOfYear, cs) => some { parts with dayOfYear := some (spelledNumber cs) }
  | (.sundayWeek, cs) => some { parts with week := some (spelledNumber cs, false) }
  | (.mondayWeek, cs) => some { parts with week := some (spelledNumber cs, true) }
  | (.isoWeek, cs) => some { parts with isoWeek := some (spelledNumber cs) }
  | (.weekdayFromSunday, cs) => some { parts with weekday := some ((spelledNumber cs + 6) % 7) }
  | (.weekdayFromMonday, cs) => some { parts with weekday := some (spelledNumber cs - 1) }
  | (.dayName, cs) => do
      let n ← namePosition? (dayNames.map String.toList) cs
      return { parts with weekday := some n }
  | (.shortDayName, cs) => do
      let n ← namePosition? (dayNames.map abbreviation) cs
      return { parts with weekday := some n }
  | (.monthName, cs) => do
      let n ← namePosition? (monthNames.map String.toList) cs
      return { parts with month := n + 1 }
  | (.shortMonthName, cs) => do
      let n ← namePosition? (monthNames.map abbreviation) cs
      return { parts with month := n + 1 }
  | (.offset, cs) => do
      let o ← readOffset? cs
      return { parts with place := .offset o }
  | (.zoneName, _) => some parts

def ofCaptures? (captures : Pattern.Captures) : Option MomentParts :=
  let afternoon := (captures.lookup .half).any fun cs => asciiLower cs == ['p', 'm']
  captures.foldlM (say? afternoon) unsaid

/-- A week year that stands for the year needs a week and a day of the week, and no day of
the year. Otherwise a week of a week year is of no use, and is admitted only beside a
week of the year, which outweighs it. Of the two rules in use this is the older one; the newer
one refuses every text that says a week year beside a year. -/
def isConsistent (parts : MomentParts) : Bool :=
  if parts.year.isNone && parts.weekYear.isSome then
    parts.isoWeek.isSome && parts.weekday.isSome && parts.dayOfYear.isNone
  else parts.isoWeek.isNone || parts.week.isSome

/-- The days of the years before a year of the calendar. -/
def daysBeforeYear? (year : Int) : Option Nat :=
  if 1 ≤ year ∧ year ≤ 9999 then some (daysOfYears (year.toNat - 1)) else none

def yearLength (year : Int) : Int := if isLeapYear year.natAbs then 366 else 365

/-- The day of the year, counted from 1, of a weekday in a week of the year. The days
before the first start of a week make up week 0. -/
def dayInWeek? (year : Int) (week : Nat) (startsMonday : Bool) (weekday : Nat) : Option Int := do
  let before ← daysBeforeYear? year
  let shift := if startsMonday then 0 else 1
  let first := (before + shift) % 7
  let weekday := (weekday + shift) % 7
  if week = 0 then return 1 + weekday - first
  else return 1 + (7 - first) % 7 + 7 * (week - 1) + weekday

/-- The year and the day of the year of a weekday in a week of a week year. -/
def dayInIsoWeek? (weekYear : Int) (week weekday : Nat) : Option (Int × Int) := do
  let before ← daysBeforeYear? weekYear
  let fourth := (before + 3) % 7
  let day : Int := 7 * week + weekday - fourth - 3
  if day < 1 then
    let earlier ← daysBeforeYear? (weekYear - 1)
    return (weekYear - 1, day + before - earlier)
  else return (weekYear, day)

/-- The year and, where it is said or follows from a week, the day of the year. A week of
the year counts only with a weekday, and a day of the year outweighs both. -/
def yearAndDay? (parts : MomentParts) (year : Int) : Option (Int × Option Int) :=
  match parts.dayOfYear, parts.weekday with
  | some day, _ => some (year, some day)
  | none, none => some (year, none)
  | none, some weekday =>
      match parts.week, parts.weekYear, parts.isoWeek with
      | some (week, startsMonday), _, _ => do
          let day ← dayInWeek? year week startsMonday weekday
          if day ≤ 0 then return (year - 1, some (day + yearLength (year - 1)))
          else return (year, some day)
      | none, some weekYear, some isoWeek => do
          let (year, day) ← dayInIsoWeek? weekYear isoWeek weekday
          return (year, some day)
      | _, _, _ => some (year, none)

/-- The date of the parts. The 29th of February without a year is looked up in a leap
year and then taken to be of 1900 like every date without a year. -/
def date? (parts : MomentParts) : Option Date := do
  let leapDay := parts.year.isNone && parts.month == 2 && parts.day == 29
  let (year, day) ← parts.yearAndDay? (parts.year.getD (if leapDay then 1904 else 1900))
  let before ← daysBeforeYear? year
  let date ← match day with
    | some day => Date.ofDayNumber? (before + day - 1)
    | none => Date.ofCivil? ⟨year.toNat, parts.month, parts.day⟩
  if leapDay then Date.ofCivil? { date.civil with year := 1900 } else return date

def dateTime? (parts : MomentParts) : Option DateTime := do
  if !parts.isConsistent then none
  else
    let date ← parts.date?
    let time ← TimeOfDay.ofClock? parts.hour parts.minute parts.second parts.micro
    return ⟨.of date time, false, parts.place⟩

end MomentParts

namespace Pattern

/-- Reads a whole text by a pattern. -/
def read? (p : Pattern) (cs : List Char) : Option DateTime := do
  let captures ← p.fit? cs
  let parts ← MomentParts.ofCaptures? captures
  parts.dateTime?

/-- The ways to write a time of day: with seconds, with a fraction of a second, or with
neither. -/
def timesOfDay : List Pattern :=
  let hourMinute := [.directive .hour, .literal ':', .directive .minute]
  let withSecond := hourMinute ++ [.literal ':', .directive .second]
  [withSecond, withSecond ++ [.literal '.', .directive .fraction], hourMinute]

end Pattern

end FilterPipeline
