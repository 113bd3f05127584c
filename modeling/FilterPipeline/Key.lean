/-!
The grammar of filter keys. A key names a field and, after a dash, the operator to
apply to it; without an operator it asks for equality. Where several operators fit the
end of a key, the longest one is meant.
-/

namespace FilterPipeline

inductive Operator where
  | equal
  | notEqual
  | greater
  | less
  | atLeast
  | atMost
  | rangeFrom
  | rangeTo
  | afterDay
  | sinceDay
  | beforeDay
  | throughDay
  | among
  | notAmong
  | notEmpty
  | isNull
  | notNull
  | isTrue
  | isFalse
  | present
  | anyOf
  | timeFrom
  | timeTo
deriving DecidableEq, Repr

namespace Operator

/-- The word that stands for an operator at the end of a key. -/
def suffix : Operator → String
  | .equal => ""
  | .notEqual => "not"
  | .greater => "gt"
  | .less => "lt"
  | .atLeast => "gte"
  | .atMost => "lte"
  | .rangeFrom => "from"
  | .rangeTo => "to"
  | .afterDay => "gtDate"
  | .sinceDay => "gteDate"
  | .beforeDay => "ltDate"
  | .throughDay => "lteDate"
  | .among => "in"
  | .notAmong => "nin"
  | .notEmpty => "nt-empty"
  | .isNull => "isnull"
  | .notNull => "notnull"
  | .isTrue => "true"
  | .isFalse => "false"
  | .present => "exists"
  | .anyOf => "or"
  | .timeFrom => "time-from"
  | .timeTo => "time-to"

/-- The operators that have a suffix, longer suffixes before shorter ones. -/
def suffixed : List Operator := [
  .timeFrom,
  .notEmpty,
  .sinceDay, .throughDay, .notNull, .timeTo,
  .afterDay, .beforeDay, .isNull, .present,
  .isFalse,
  .rangeFrom, .isTrue,
  .notEqual, .atLeast, .atMost, .notAmong,
  .greater, .less, .rangeTo, .among, .anyOf]

end Operator

/-- A key taken apart. -/
structure Key where
  field : String
  operator : Operator
deriving DecidableEq, Repr

namespace Key

def isBare (k : Key) : Bool := k.operator = .equal

/-- The key of a field and an operator. -/
def format (field : String) (operator : Operator) : String :=
  match operator with
  | .equal => field
  | op => field ++ "-" ++ op.suffix

/-- What stands before a tail; there has to be something. -/
def beforeTail? (tail cs : List Char) : Option (List Char) :=
  let front := cs.take (cs.length - tail.length)
  if front ≠ [] ∧ front ++ tail = cs then some front else none

def parse? (key : String) : Option Key :=
  if key.toList.contains '-' then
    Operator.suffixed.findSome? fun op =>
      (beforeTail? ('-' :: op.suffix.toList) key.toList).map fun front =>
        ⟨String.ofList front, op⟩
  else some ⟨key, .equal⟩

end Key

def orKey : String := "or"

def andKey : String := "and"

/-- The flag that turns on rules about today and about dates across two fields. -/
def dateGate : String := "range-within-date"

/-- The flag that turns on the rule about the time of day. -/
def timeGate : String := "range-within-time"

/-- Keys that belong to rules although they name no operator. -/
def reservedKeys : List String := [orKey, andKey, dateGate, timeGate, "notnull", "exists"]

/-- Whether a key stands for an equality when no rule has read it. -/
def isSweepable (key : String) : Bool :=
  (Key.parse? key).any Key.isBare && !reservedKeys.contains key

end FilterPipeline
