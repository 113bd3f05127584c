import FilterPipeline.Decimal.Shortest
import FilterPipeline.Host
import FilterPipeline.Text.Letter

/-!
Values: what a filter may hold and what a stage is made of. Documents keep their
fields in order.
-/

namespace FilterPipeline

/-- The longest text of an integer that is read or written, in digits. -/
def maxIntegerDigits : Nat := 4300

inductive Value where
  | null
  | bool (b : Bool)
  | int (n : Int)
  | float (x : Binary64)
  | text (s : String)
  | list (elements : List Value)
  | tuple (elements : List Value)
  | set (elements : List Value)
  | document (fields : List (Value × Value))
  | dateTime (m : DateTime)
  | date (d : Date)
  | time (t : TimeOfDay)
  | id (oid : ObjectId)
deriving Repr

namespace Value

/-- The document with the given named fields. -/
def record (fields : List (String × Value)) : Value :=
  .document (fields.map fun (name, v) => (.text name, v))

/-- The document with a single named field. -/
def single (name : String) (v : Value) : Value := record [(name, v)]

/-- Null and the empty text stand for a filter that is not set. -/
def isPresent : Value → Bool
  | .null => false
  | .text s => s != ""
  | _ => true

/-- A flag is set by true or by the text "true", and by nothing else. -/
def isFlagSet : Value → Bool
  | .bool b => b
  | .text s => s == "true"
  | _ => false

/-- A flag is cleared by false or by the text "false", and by nothing else. -/
def isFlagCleared : Value → Bool
  | .bool b => !b
  | .text s => s == "false"
  | _ => false

/-- Nothing, zero and whatever is empty count as false. -/
def isTruthy : Value → Bool
  | .null => false
  | .bool b => b
  | .int n => n != 0
  | .float x => !x.isZero
  | .text s => s != ""
  | .list vs | .tuple vs | .set vs => !vs.isEmpty
  | .document fields => !fields.isEmpty
  | .dateTime _ | .date _ | .time _ | .id _ => true

/-- The truth value a filter stands for; of texts only "true" and "false" have one,
in any case. -/
def toBool? : Value → Option Bool
  | .text s =>
      let word := String.ofList (Text.asciiLower s.toList)
      if word == "true" then some true else if word == "false" then some false else none
  | v => some v.isTruthy

/-- The elements of a collection; any other value is the only element of its own. -/
def elements : Value → List Value
  | .list vs | .tuple vs | .set vs => vs
  | v => [v]

/-- What a value is run through element by element as: a text gives its characters and
a document its keys. Values without elements give none. -/
def iterate? : Value → Option (List Value)
  | .list vs | .tuple vs | .set vs => some vs
  | .text s => some (s.toList.map fun c => .text c.toString)
  | .document fields => some (fields.map Prod.fst)
  | _ => none

/-- Whether a value is an identifier or the text of one. -/
def isId [Host] : Value → Bool
  | .id _ => true
  | .text s => Host.isIdText s.toList
  | _ => false

/-- The name of a value's kind in messages. -/
def kind : Value → String
  | .null => "NoneType"
  | .bool _ => "bool"
  | .int _ => "int"
  | .float _ => "float"
  | .text _ => "str"
  | .list _ => "list"
  | .tuple _ => "tuple"
  | .set _ => "set"
  | .document _ => "dict"
  | .dateTime _ => "datetime"
  | .date _ => "date"
  | .time _ => "time"
  | .id _ => "ObjectId"

end Value

end FilterPipeline
