import FilterPipeline.Calendar.Pattern.Shape

/-!
Directives: the parts of a date pattern that stand for a part of a moment, and the texts
each of them fits. Shorter numbers than the widest are tried last, and names are matched
without regard to case.
-/

namespace FilterPipeline

inductive Directive where
  | day
  | month
  | year
  | shortYear
  | weekYear
  | hour
  | hourOfHalf
  | half
  | minute
  | second
  | fraction
  | dayOfYear
  | sundayWeek
  | mondayWeek
  | isoWeek
  | weekdayFromSunday
  | weekdayFromMonday
  | dayName
  | shortDayName
  | monthName
  | shortMonthName
  | offset
  /-- The name of a zone. Universal time alone has a name here, and says nothing about a
  reading. -/
  | zoneName
deriving DecidableEq, Repr

namespace Directive

/-- The letter after the percent sign. -/
def letter : Directive → Char
  | .day => 'd'
  | .month => 'm'
  | .year => 'Y'
  | .shortYear => 'y'
  | .weekYear => 'G'
  | .hour => 'H'
  | .hourOfHalf => 'I'
  | .half => 'p'
  | .minute => 'M'
  | .second => 'S'
  | .fraction => 'f'
  | .dayOfYear => 'j'
  | .sundayWeek => 'U'
  | .mondayWeek => 'W'
  | .isoWeek => 'V'
  | .weekdayFromSunday => 'w'
  | .weekdayFromMonday => 'u'
  | .dayName => 'A'
  | .shortDayName => 'a'
  | .monthName => 'B'
  | .shortMonthName => 'b'
  | .offset => 'z'
  | .zoneName => 'Z'

def all : List Directive := [
  .day, .month, .year, .shortYear, .weekYear, .hour, .hourOfHalf, .half, .minute, .second,
  .fraction, .dayOfYear, .sundayWeek, .mondayWeek, .isoWeek, .weekdayFromSunday,
  .weekdayFromMonday, .dayName, .shortDayName, .monthName, .shortMonthName, .offset,
  .zoneName]

def ofLetter? (c : Char) : Option Directive := all.find? (·.letter == c)

end Directive

/-- The days of the week from Monday. -/
def dayNames : List String :=
  ["monday", "tuesday", "wednesday", "thursday", "friday", "saturday", "sunday"]

def monthNames : List String :=
  ["january", "february", "march", "april", "may", "june", "july", "august", "september",
    "october", "november", "december"]

/-- The first three letters of a name. -/
def abbreviation (name : String) : List Char := name.toList.take 3

namespace Directive

open Shape

private def digits (count : Nat) : Shape := inTurn (List.replicate count anyDigit)

/-- The texts that a directive fits. -/
def shape : Directive → Shape
  | .day => anyOf [
      inTurn [(· == '3'), charRange '0' '1'], inTurn [charRange '1' '2', anyDigit],
      inTurn [(· == '0'), charRange '1' '9'], one (charRange '1' '9'),
      inTurn [(· == ' '), charRange '1' '9']]
  | .month | .hourOfHalf => anyOf [
      inTurn [(· == '1'), charRange '0' '2'], inTurn [(· == '0'), charRange '1' '9'],
      one (charRange '1' '9')]
  | .year | .weekYear => digits 4
  | .shortYear => digits 2
  | .hour => anyOf [
      inTurn [(· == '2'), charRange '0' '3'], inTurn [charRange '0' '1', anyDigit], one anyDigit]
  | .half => anyOf [word "am".toList, word "pm".toList]
  | .minute => anyOf [inTurn [charRange '0' '5', anyDigit], one anyDigit]
  | .second => anyOf [
      inTurn [(· == '6'), charRange '0' '1'], inTurn [charRange '0' '5', anyDigit], one anyDigit]
  | .fraction => (one (charRange '0' '9')).followedBy (upTo 5 (charRange '0' '9'))
  | .dayOfYear => anyOf [
      inTurn [(· == '3'), (· == '6'), charRange '0' '6'],
      inTurn [(· == '3'), charRange '0' '5', anyDigit],
      inTurn [charRange '1' '2', anyDigit, anyDigit],
      inTurn [(· == '0'), charRange '1' '9', anyDigit],
      inTurn [(· == '0'), (· == '0'), charRange '1' '9'],
      inTurn [charRange '1' '9', anyDigit],
      inTurn [(· == '0'), charRange '1' '9'], one (charRange '1' '9')]
  | .sundayWeek | .mondayWeek => anyOf [
      inTurn [(· == '5'), charRange '0' '3'], inTurn [charRange '0' '4', anyDigit], one anyDigit]
  | .isoWeek => anyOf [
      inTurn [(· == '5'), charRange '0' '3'], inTurn [(· == '0'), charRange '1' '9'],
      inTurn [charRange '1' '4', anyDigit], one anyDigit]
  | .weekdayFromSunday => one (charRange '0' '6')
  | .weekdayFromMonday => one (charRange '1' '7')
  | .dayName => anyOf (dayNames.map fun name => word name.toList)
  | .shortDayName => anyOf (dayNames.map fun name => word (abbreviation name))
  | .monthName => anyOf (monthNames.map fun name => word name.toList)
  | .shortMonthName => anyOf (monthNames.map fun name => word (abbreviation name))
  | .offset =>
      let colon := optional (one (· == ':'))
      let sixty := inTurn [charRange '0' '5', anyDigit]
      let fraction := (one (· == '.')).followedBy ((one anyDigit).followedBy (upTo 5 anyDigit))
      let seconds := colon.followedBy (sixty.followedBy (optional fraction))
      anyOf [
        (inTurn [fun c => c == '+' || c == '-', anyDigit, anyDigit]).followedBy
          (colon.followedBy (sixty.followedBy (optional seconds))),
        one (· == 'Z')]
  | .zoneName => anyOf [word "utc".toList, word "gmt".toList]

end Directive

end FilterPipeline
