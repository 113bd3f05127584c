import FilterPipeline.Text.Quoted
import FilterPipeline.Value

/-!
Why a step fails, and the messages for it. Failures that come from the values alone,
such as a moment outside the calendar, have no message of their own.
-/

namespace FilterPipeline

/-- A setting that is refused: it is not a text, or an empty one where a name is needed. -/
inductive InvalidSetting where
  | notText (field : String)
  | empty (field : String)
deriving DecidableEq, Repr

inductive Error where
  | unknownZone (name : String)
  /-- A zone that is there but cannot be read. -/
  | unreadableZone (name : String)
  | outsideCalendar
  /-- An integer whose text would be too long. -/
  | tooManyDigits
  /-- A value of which no identifier can be made. -/
  | badId
  | repeatedDirective
  /-- A value without elements where elements are needed. -/
  | notIterable
  /-- A value that no document can have as a key. -/
  | badKey
  /-- A value other than a text where a date pattern is needed. -/
  | notPattern
  /-- A value other than a text where a name is needed. -/
  | notName
  /-- A value other than a moment where one is needed. -/
  | notMoment
  /-- A rule needs a dictionary where there is none. -/
  | noDictionary
  /-- Arguments that are missing, or that nothing takes. -/
  | badArguments
  /-- An entry of a document that is not a pair. -/
  | notPair
  | badMatch (v : Value)
  | badAnswer (v : Value)
  | invalidSettings (settings : List InvalidSetting)
deriving Repr

def Error.message? : Error → Option String
  | .unknownZone name => some ("Unknown timezone: " ++ String.ofList (Text.quote name.toList))
  | .badMatch v => some ("match() expects a mapping or a callable, got " ++ v.kind)
  | .badAnswer v =>
      some ("filter callback must return a FilterStageBuilder, a stage list or None, got " ++
        v.kind)
  | _ => none

namespace Value

/-- What a value is run through as, where it has to have elements. -/
def elementsOrFail (v : Value) : Except Error (List Value) :=
  match v.iterate? with
  | some vs => .ok vs
  | none => .error .notIterable

/-- The identifier that a value is or that is made of its text. -/
def convertId [Host] : Value → Except Error ObjectId
  | .id oid => .ok oid
  | .text s =>
      match Host.idOfText? s.toList with
      | some oid => .ok oid
      | none => .error .badId
  | _ => .error .badId

/-- The identifiers among some values, in their order. -/
def toIds [Host] (vs : List Value) : Except Error (List ObjectId) :=
  (vs.filter isId).mapM convertId

end Value

end FilterPipeline
