import FilterPipeline.Filters
import FilterPipeline.Key
import FilterPipeline.Moment
import FilterPipeline.Number
import FilterPipeline.Stage
import FilterPipeline.Text.Literal
import FilterPipeline.Value.Text

/-!
Rules. A rule reads the values of some keys and gives at most one stage; it consumes the
keys it has read, whether or not their values were of use. A value that is not usable
gives no stage and is reported, which is no error unless the value cannot be written. A rule
may be given a value of its own, in which case it reads no key; null is no such value. Fields
are named by texts; a rule with another value for a name reads no bare key, and has no path
for expressions.
-/

namespace FilterPipeline

inductive Rule where
  /-- Equality with a text. -/
  | text (field given : Value)
  /-- A search for a text. -/
  | search (field options : Value)
  | notEqual (field : Value)
  /-- Equality with a number. -/
  | number (field given : Value)
  | comparison (field : Value) (c : Comparison)
  /-- Bounds from below and above, on a second field too if one is given. -/
  | range (field other : Value)
  /-- Equality with a truth value. -/
  | truth (field given : Value)
  /-- Equality with true or false by flags. -/
  | trueOrFalse (field : Value)
  /-- Equality with a moment, read by the ISO format unless a pattern is given. -/
  | moment (field given pattern : Value)
  | dayRange (field : Value)
  | dayComparison (field : Value) (c : Comparison)
  /-- Today lies between two fields. -/
  | today (startField endField now : Value)
  /-- The given time of day, or else the present one, lies between two fields. -/
  | timeOfDay (startField endField given now : Value)
  | timeRange (startField endField : Value)
  | dayRangeAcross (startField endField : Value)
  | among (field given : Value)
  | notAmong (field given : Value)
  | idsAmong (field given : Value)
  | id (field : Value)
  | ids (field : Value)
  | notEmpty (field : Value)
  | notDeleted (field : Value)
  | isNull (field : Value)
  | notNull (field : Value)
  /-- Whether a field exists, by a flag that may be set or cleared. -/
  | existence (field : Value)
  /-- A field is expected to exist; with a flag key, only if that is set. -/
  | expect (field expected flagKey : Value)
  | anyOf
  | allOf
  | anyOfNamed (name : Value)
deriving Repr

namespace Comparison

def operator : Comparison → Operator
  | .greater => .greater
  | .less => .less
  | .atLeast => .atLeast
  | .atMost => .atMost

/-- The operator for the comparison with a whole day. -/
def dayOperator : Comparison → Operator
  | .greater => .afterDay
  | .less => .beforeDay
  | .atLeast => .sinceDay
  | .atMost => .throughDay

/-- The end of a day that a comparison with the whole day is about. -/
def dayBound : Comparison → Zoned → Zoned
  | .greater, m | .atMost, m => m.endOfDay
  | .less, m | .atLeast, m => m.startOfDay

end Comparison

namespace Rule

/-- The value of its own that a rule was given; null if there is none. -/
def given : Rule → Value
  | .text _ v | .number _ v | .truth _ v | .moment _ v _ => v
  | .among _ v | .notAmong _ v | .idsAmong _ v => v
  | _ => .null

end Rule

/-- What a rule makes of a dictionary: stages to append and keys to remove. -/
structure Translation where
  stages : List Stage
  consumed : List String
deriving Repr

namespace Translation

/-- No stage; the keys are removed all the same. -/
def skip (consumed : List String) : Translation := ⟨[], consumed⟩

def of (s : Stage) (consumed : List String) : Translation := ⟨[s], consumed⟩

end Translation

namespace Rule

/-- The key of a field and an operator, if the name of the field can be written. -/
def writeKey (field : Value) (operator : Operator) : Except Error String :=
  field.write.map fun name => Key.format (String.ofList name) operator

/-- The value to work on and the keys read for it: a given value, or that of a key with the
key itself if it is there. -/
def resolve (f : Filters) (key given : Value) : Except Error (Value × List String) :=
  match given, key with
  | .null, .text key => .ok (f.value key, [key].filter f.contains)
  | .null, key => if key.isKey then .ok (.null, []) else .error .badKey
  | v, _ => .ok (v, [])

/-- Reports a value that is of no use to a field or a key. Both are written in the report. -/
def report (about v : Value) : Except Error Unit := do
  let _ ← about.write
  let _ ← v.spell

/-- A stage about one field. -/
def matchField (field : Value) (c : Condition) : Except Error Stage :=
  if field.isKey then .ok (.filter (.single field c)) else .error .badKey

/-- Equality with what the value of a bare key, or a given one, is converted to. -/
def equalityMatch (f : Filters) (field given : Value)
    (convert : Value → Except Error (Option Value)) : Except Error Translation := do
  let (raw, consumed) ← resolve f field given
  if !raw.isPresent then return .skip consumed
  match ← convert raw with
  | none => do
      report field raw
      return .skip consumed
  | some v => return .of (← matchField field (.equals v)) consumed

/-- A text is itself, and no other value is one. -/
def textOf : Value → Option Value
  | .text s => some (.text s)
  | _ => none

/-- The universal time of the moment that a value stands for in a zone. -/
def momentOf [Host] (zone : Except Error Zone) (pattern v : Value) :
    Except Error (Option Value) := do
  let z ← zone
  match ← v.readZoned z pattern with
  | none => return none
  | some m => return some (← z.toStored m)

/-- The identifier that a value is or spells. -/
def idOf [Host] (v : Value) : Except Error (Option Value) :=
  if v.isId then v.convertId.map fun oid => some (.id oid) else .ok none

def searchMatch (f : Filters) (field options : Value) : Except Error Translation := do
  let (raw, consumed) ← resolve f field .null
  if !raw.isPresent then return .skip consumed
  let text ← raw.write
  let pattern := String.ofList (Text.literal text)
  return .of (← matchField field (.contains pattern options)) consumed

/-- A condition with the value of an operator's key, or a given one, as it is. -/
def operandMatch (f : Filters) (field given : Value) (operator : Operator)
    (condition : Value → Condition) : Except Error Translation := do
  let key ← writeKey field operator
  let (raw, consumed) ← resolve f (.text key) given
  if !raw.isPresent then return .skip consumed
  return .of (← matchField field (condition raw)) consumed

/-- The bounds that the values of a lower and an upper key are, as far as they are set. -/
def rangeLimits (lower upper : Value) : List (Comparison × Value) :=
  [(Comparison.atLeast, lower), (Comparison.atMost, upper)].filter (·.2.isPresent)

/-- A stage with bounds for a field and, if another one is named, the same for that. -/
def matchRange (field other : Value) (limits : List (Comparison × Value)) : Except Error Stage :=
  if !other.isTruthy || other.isSameKey field then matchField field (.bounds limits)
  else if field.isKey && other.isKey then
    .ok (.filter (.fields [(field, .bounds limits), (other, .bounds limits)]))
  else .error .badKey

def rangeMatch (f : Filters) (field other : Value) : Except Error Translation := do
  let fromKey ← writeKey field .rangeFrom
  let toKey ← writeKey field .rangeTo
  let consumed := [fromKey, toKey].filter f.contains
  let limits := rangeLimits (f.value fromKey) (f.value toKey)
  if limits.isEmpty then return .skip consumed
  return .of (← matchRange field other limits) consumed

/-- A stage about one field, if the flag of an operator is set. -/
def flagMatch (f : Filters) (field : Value) (operator : Operator) (c : Condition) :
    Except Error Translation := do
  let key ← writeKey field operator
  let (raw, consumed) ← resolve f (.text key) .null
  if !raw.isFlagSet then return .skip consumed
  return .of (← matchField field c) consumed

/-- Of two flags that are set the one for true counts. -/
def trueOrFalseMatch (f : Filters) (field : Value) : Except Error Translation := do
  let trueKey ← writeKey field .isTrue
  let falseKey ← writeKey field .isFalse
  let consumed := [trueKey, falseKey].filter f.contains
  if (f.value trueKey).isFlagSet then
    return .of (← matchField field (.equals (.bool true))) consumed
  if (f.value falseKey).isFlagSet then
    return .of (← matchField field (.equals (.bool false))) consumed
  return .skip consumed

def existenceMatch (f : Filters) (field : Value) : Except Error Translation := do
  let key ← writeKey field .present
  let (raw, consumed) ← resolve f (.text key) .null
  if raw.isFlagSet then return .of (← matchField field (.present (.bool true))) consumed
  if raw.isFlagCleared then return .of (← matchField field (.present (.bool false))) consumed
  return .skip consumed

/-- The key under which a field's existence is asked for. A flag key that counts as false is
replaced by the field's own. -/
def writeExistenceKey (field flagKey : Value) : Except Error Value :=
  if flagKey.isTruthy then .ok flagKey else (writeKey field .present).map .text

/-- With a flag key its flag has to be set. -/
def isAsked (flagKey flag : Value) : Bool :=
  match flagKey with
  | .null => true
  | _ => flag.isFlagSet

def expectMatch (f : Filters) (field expected flagKey : Value) : Except Error Translation := do
  let key ← writeExistenceKey field flagKey
  let (raw, consumed) ← resolve f key .null
  if !isAsked flagKey raw then return .skip consumed
  return .of (← matchField field (.present expected)) consumed

def notDeletedMatch (f : Filters) (field : Value) : Except Error Translation := do
  let (_, consumed) ← resolve f field .null
  return .of (← matchField field (.equals .null)) consumed

/-- Membership among the identifiers that a collection has, if it has any. -/
def idListMatch [Host] (f : Filters) (field key given : Value) : Except Error Translation := do
  let (raw, consumed) ← resolve f key given
  if !raw.isPresent then return .skip consumed
  match ← Value.toIds raw.elements with
  | [] => return .skip consumed
  | oids => return .of (← matchField field (.among (oids.map .id))) consumed

/-- A list of queries, which has to have an element. -/
def logicalMatch (f : Filters) (key : String) (query : List Value → Query) :
    Except Error Translation := do
  let (conditions, consumed) ← resolve f (.text key) .null
  match conditions with
  | .list (q :: qs) => return .of (.filter (query (q :: qs))) consumed
  | .null => return .skip consumed
  | v => do
      report (.text key) v
      return .skip consumed

/-- The bound that one side of a range of days gives, if its value stands for a moment. -/
def dayRangeSide [Host] (zone : Except Error Zone) (c : Comparison) (v : Value) :
    Except Error (List (Comparison × Value)) := do
  if !v.isPresent then return []
  let z ← zone
  match ← v.readZoned z .null with
  | none => return []
  | some m => return [(c, ← z.toStored (c.dayBound m))]

def dayRangeMatch [Host] (f : Filters) (zone : Except Error Zone) (field : Value) :
    Except Error Translation := do
  let fromKey ← writeKey field .rangeFrom
  let toKey ← writeKey field .rangeTo
  let consumed := [fromKey, toKey].filter f.contains
  let lower ← dayRangeSide zone .atLeast (f.value fromKey)
  let upper ← dayRangeSide zone .atMost (f.value toKey)
  let limits := lower ++ upper
  if limits.isEmpty then return .skip consumed
  return .of (← matchField field (.bounds limits)) consumed

def dayComparisonMatch [Host] (f : Filters) (zone : Except Error Zone) (field : Value)
    (c : Comparison) : Except Error Translation := do
  let key ← writeKey field c.dayOperator
  let (raw, consumed) ← resolve f (.text key) .null
  if !raw.isPresent then return .skip consumed
  let z ← zone
  match ← raw.readZoned z .null with
  | none => do
      report (.text key) raw
      return .skip consumed
  | some m =>
      let bound ← z.toStored (c.dayBound m)
      return .of (← matchField field (.bounds [(c, bound)])) consumed

/-- Limits that lie around a bound, one for each of two fields. -/
def spanLimits (startField endField : Value) (stored : String → Operand) (bound : Value) :
    Except Error (List Limit) := do
  let startName ← startField.nameOrFail
  let endName ← endField.nameOrFail
  return [⟨.atMost, stored startName, bound⟩, ⟨.atLeast, stored endName, bound⟩]

def todayMatch [Host] (f : Filters) (zone : Except Error Zone) (startField endField now : Value) :
    Except Error Translation := do
  let consumed := [dateGate].filter f.contains
  if !(f.value dateGate).isFlagSet then return .skip consumed
  let z ← zone
  let now ← now.momentOrFail
  let today ← z.toStored (← z.ofDateTime now).startOfDay
  return .of (.filter (.expression (← spanLimits startField endField .field today))) consumed

/-- The time of day to look for: a given one, if it can be read, or else the present one. -/
def timeSought [Host] (zone : Except Error Zone) (given now : Value) :
    Except Error (Option TimeOfDay) :=
  if given.isTruthy then .ok given.toTime?
  else do
    let z ← zone
    return some (← z.presentTime now)

/-- Fields that hold no time of day count as holding midnight. -/
def storedTime (name : String) : Operand := .plusZero (.orZero (.field name))

def timeOfDayMatch [Host] (f : Filters) (zone : Except Error Zone)
    (startField endField given now : Value) : Except Error Translation := do
  let consumed := [timeGate].filter f.contains
  if !(f.value timeGate).isFlagSet then return .skip consumed
  match ← timeSought zone given now with
  | none => do
      let _ ← given.spell
      return .skip consumed
  | some t =>
      let limits ← spanLimits startField endField storedTime (.int t.millis)
      return .of (.filter (.expression limits)) consumed

/-- The comparison of a field that holds milliseconds of a day with the time of day that a
value stands for, if it does. -/
def timeSide (c : Comparison) (field v : Value) (millis : TimeOfDay → Nat) :
    Except Error (List Limit) := do
  if !v.isPresent then return []
  match v.toTime? with
  | none => return []
  | some t => return [⟨c, .orZero (.field (← field.nameOrFail)), .int (millis t)⟩]

/-- The zone is looked up, although times of day need none. -/
def timeRangeMatch (f : Filters) (zone : Except Error Zone) (startField endField : Value) :
    Except Error Translation := do
  let _ ← zone
  let fromKey ← writeKey startField .timeFrom
  let toKey ← writeKey endField .timeTo
  let consumed := [fromKey, toKey].filter f.contains
  let lower ← timeSide .atLeast startField (f.value fromKey) (·.wholeSecondMillis)
  let upper ← timeSide .atMost endField (f.value toKey) (·.wholeSecondMillis + 999)
  let limits := lower ++ upper
  if limits.isEmpty then return .skip consumed
  return .of (.filter (.expression limits)) consumed

/-- The comparison of a field with the end of the day that a value stands for, if it does. -/
def dayAcrossSide [Host] (zone : Except Error Zone) (c : Comparison) (field v : Value) :
    Except Error (List Limit) := do
  if !v.isPresent then return []
  let z ← zone
  match ← v.readZoned z .null with
  | none => return []
  | some m =>
      let name ← field.nameOrFail
      let bound ← z.toStored (c.dayBound m)
      return [⟨c, .field name, bound⟩]

def dayRangeAcrossMatch [Host] (f : Filters) (zone : Except Error Zone)
    (startField endField : Value) : Except Error Translation := do
  let gate := [dateGate].filter f.contains
  if !(f.value dateGate).isFlagSet then return .skip gate
  let fromKey ← writeKey startField .rangeFrom
  let toKey ← writeKey endField .rangeTo
  let consumed := gate ++ [fromKey, toKey].filter f.contains
  let lower ← dayAcrossSide zone .atLeast startField (f.value fromKey)
  let upper ← dayAcrossSide zone .atMost endField (f.value toKey)
  let limits := lower ++ upper
  if limits.isEmpty then return .skip consumed
  return .of (.filter (.expression limits)) consumed

/-- Applies a rule to a dictionary, which it leaves alone. The zone may be unknown as long
as the rule does not need it. -/
def translate [Host] (r : Rule) (zone : Except Error Zone) (f : Filters) :
    Except Error Translation :=
  match r with
  | .text field given => equalityMatch f field given fun v => .ok (textOf v)
  | .search field options => searchMatch f field options
  | .notEqual field => operandMatch f field .null .notEqual .differs
  | .number field given => equalityMatch f field given fun v => .ok (v.toNumber?.map Number.toValue)
  | .comparison field c => operandMatch f field .null c.operator fun v => .bounds [(c, v)]
  | .range field other => rangeMatch f field other
  | .truth field given => equalityMatch f field given fun v => .ok (v.toBool?.map Value.bool)
  | .trueOrFalse field => trueOrFalseMatch f field
  | .moment field given pattern => equalityMatch f field given (momentOf zone pattern)
  | .dayRange field => dayRangeMatch f zone field
  | .dayComparison field c => dayComparisonMatch f zone field c
  | .today startField endField now => todayMatch f zone startField endField now
  | .timeOfDay startField endField given now => timeOfDayMatch f zone startField endField given now
  | .timeRange startField endField => timeRangeMatch f zone startField endField
  | .dayRangeAcross startField endField => dayRangeAcrossMatch f zone startField endField
  | .among field given => operandMatch f field given .among fun v => .among v.elements
  | .notAmong field given => operandMatch f field given .notAmong fun v => .notAmong v.elements
  | .idsAmong field given => do
      let key ← writeKey field .among
      idListMatch f field (.text key) given
  | .id field => equalityMatch f field .null idOf
  | .ids field => idListMatch f field field .null
  | .notEmpty field => flagMatch f field .notEmpty .notEmpty
  | .notDeleted field => notDeletedMatch f field
  | .isNull field => flagMatch f field .isNull (.equals .null)
  | .notNull field => flagMatch f field .notNull (.differs .null)
  | .existence field => existenceMatch f field
  | .expect field expected flagKey => expectMatch f field expected flagKey
  | .anyOf => logicalMatch f orKey .anyOf
  | .allOf => logicalMatch f andKey .allOf
  | .anyOfNamed name => do
      let key ← writeKey name .anyOf
      logicalMatch f key .anyOf

/-- The dictionary to work on where there may be none: a value given instead needs none. -/
def dictionary (given : Value) : Option Filters → Except Error Filters
  | some f => .ok f
  | none =>
      match given with
      | .null => .error .noDictionary
      | _ => .ok .empty

/-- Finds the value to work on where there may be no dictionary. -/
def resolveIn (f : Option Filters) (key given : Value) : Except Error (Value × List String) := do
  let f ← dictionary given f
  resolve f key given

/-- Applies a rule where there may be no dictionary. -/
def translateIn [Host] (r : Rule) (zone : Except Error Zone) (f : Option Filters) :
    Except Error Translation := do
  let t ← r.translate zone (f.getD .empty)
  let _ ← dictionary r.given f
  return t

end Rule

end FilterPipeline
