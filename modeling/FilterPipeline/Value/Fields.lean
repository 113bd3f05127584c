import FilterPipeline.Error

/-!
The fields of documents. No document has a key twice, and keys are the same if they are
equal as values: numbers and truth values by their size, moments by their instant.
Collections that can be changed are no keys.
-/

namespace FilterPipeline

namespace DateTime

/-- A reading that stands for another moment as its other occurrence. -/
def isAmbiguous (m : DateTime) : Bool := { m with later := !m.later }.offset? != m.offset?

/-- Readings of one clock are compared as they are. Otherwise their universal times are, and a
moment without an offset, or with a reading that its clock shows twice, is the same as no
other. -/
def isSameMoment (m n : DateTime) : Bool :=
  if m.place = n.place then m.wall = n.wall
  else
    match m.offset?, n.offset? with
    | some o, some p =>
        !m.isAmbiguous && !n.isAmbiguous && m.wall.micros - o == n.wall.micros - p
    | _, _ => false

end DateTime

namespace Value

mutual

/-- Whether a value can be the key of a field. -/
def isKey : Value → Bool
  | .list _ | .set _ | .document _ => false
  | .tuple vs => areKeys vs
  | _ => true

def areKeys : List Value → Bool
  | [] => true
  | v :: vs => v.isKey && areKeys vs

end

/-- The size of a finite number or a truth value, in the units of binary numbers. -/
def size? : Value → Option Int
  | .bool b => some (if b then Binary64.unitsOfOne else 0)
  | .int n => some (n * Binary64.unitsOfOne)
  | .float x => x.signedUnits?
  | _ => none

mutual

def isSameKey : Value → Value → Bool
  | .null, .null => true
  | .float (.infinite a), .float (.infinite b) => a == b
  | .text s, .text t => s == t
  | .tuple vs, .tuple ws => areSameKeys vs ws
  | .dateTime m, .dateTime n => m.isSameMoment n
  | .date d, .date e => d == e
  | .time t, .time u => t == u
  | .id a, .id b => a == b
  | v, w =>
      match v.size?, w.size? with
      | some a, some b => a == b
      | _, _ => false

def areSameKeys : List Value → List Value → Bool
  | [], [] => true
  | v :: vs, w :: ws => v.isSameKey w && areSameKeys vs ws
  | _, _ => false

end

/-- Sets a field. A key that is there already keeps its place. -/
def setField (key v : Value) : List (Value × Value) → List (Value × Value)
  | [] => [(key, v)]
  | (k, old) :: fields =>
      if k.isSameKey key then (k, v) :: fields else (k, old) :: setField key v fields

/-- Sets the given fields one after the other. -/
def fieldsOf (entries : List (Value × Value)) : List (Value × Value) :=
  entries.foldl (fun fields e => setField e.1 e.2 fields) []

/-- A key and a value, given as a collection of two. -/
def toEntry (v : Value) : Except Error (Value × Value) :=
  match v.iterate? with
  | none => .error .notIterable
  | some [key, item] => if key.isKey then .ok (key, item) else .error .badKey
  | some _ => .error .notPair

/-- The fields of a document, or of the pairs that a collection consists of. -/
def toFields : Value → Except Error (List (Value × Value))
  | .document fields => .ok fields
  | v =>
      match v.iterate? with
      | none => .error .notIterable
      | some vs => do
          let entries ← vs.mapM toEntry
          return fieldsOf entries

end Value

end FilterPipeline
