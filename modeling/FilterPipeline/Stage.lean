import FilterPipeline.Value.Fields
import FilterPipeline.Value.Text

/-!
Aggregation stages and the documents that stand for them. A stage filters documents by
a query, joins them with those of another collection, or unwinds a joined array.
-/

namespace FilterPipeline

inductive Comparison where
  | greater
  | less
  | atLeast
  | atMost
deriving DecidableEq, Repr

def Comparison.name : Comparison → String
  | .greater => "$gt"
  | .less => "$lt"
  | .atLeast => "$gte"
  | .atMost => "$lte"

/-- What a query asks of one field. -/
inductive Condition where
  | equals (v : Value)
  | differs (v : Value)
  | bounds (limits : List (Comparison × Value))
  | contains (pattern : String) (options : Value)
  | among (vs : List Value)
  | notAmong (vs : List Value)
  | present (expected : Value)
  | notEmpty
deriving Repr

/-- The path of a field inside an expression; a name that is a path already is kept. -/
def fieldPath (field : String) : String :=
  if field.toList.head? = some '$' then field else "$" ++ field

/-- The name that a value is. -/
def Value.nameOrFail : Value → Except Error String
  | .text name => .ok name
  | _ => .error .notName

/-- The path of a field whose name is given as a value. -/
def Value.fieldPathOrFail (v : Value) : Except Error String := v.nameOrFail.map fieldPath

/-- A number or a moment computed from a document. -/
inductive Operand where
  | field (name : String)
  | orZero (o : Operand)
  | plusZero (o : Operand)
deriving DecidableEq, Repr

/-- A comparison of a computed operand with a fixed value. -/
structure Limit where
  comparison : Comparison
  operand : Operand
  bound : Value
deriving Repr

inductive Query where
  | fields (conditions : List (Value × Condition))
  | anyOf (queries : List Value)
  | allOf (queries : List Value)
  | expression (limits : List Limit)
deriving Repr

/-- A join with another collection. The joined documents that pass the pipeline are kept
in the array `target`. The expression `foreignId` is usually the path of an identifier;
none stands for that of the joined documents. -/
structure Lookup where
  collection : Value
  pipeline : List Value
  localField : Value
  foreignField : Value
  target : Value
  foreignId : Value
deriving Repr

inductive Stage where
  | filter (query : Query)
  | lookup (join : Lookup)
  /-- Unwinds an array and drops the documents in which it is empty. -/
  | unwind (path : String)
deriving Repr

namespace Condition

def toValue : Condition → Value
  | .equals v => v
  | .differs v => .single "$ne" v
  | .bounds limits => .record (limits.map fun (c, v) => (c.name, v))
  | .contains pattern options => .record [("$regex", .text pattern), ("$options", options)]
  | .among vs => .single "$in" (.list vs)
  | .notAmong vs => .single "$nin" (.list vs)
  | .present expected => .single "$exists" expected
  | .notEmpty => .record [("$exists", .bool true), ("$not", .single "$size" (.int 0))]

end Condition

namespace Operand

def toValue : Operand → Value
  | .field name => .text (fieldPath name)
  | .orZero o => .single "$ifNull" (.list [o.toValue, .int 0])
  | .plusZero o => .single "$add" (.list [.int 0, o.toValue])

end Operand

def Limit.toValue (l : Limit) : Value :=
  .single l.comparison.name (.list [l.operand.toValue, l.bound])

namespace Query

def single (field : Value) (c : Condition) : Query := .fields [(field, c)]

def toValue : Query → Value
  | .fields conditions => .document (conditions.map fun (field, c) => (field, c.toValue))
  | .anyOf queries => .single "$or" (.list queries)
  | .allOf queries => .single "$and" (.list queries)
  | .expression limits => .single "$expr" (.single "$and" (.list (limits.map Limit.toValue)))

end Query

def Lookup.toValue (l : Lookup) : Value := .record [
  ("from", l.collection),
  ("localField", l.localField),
  ("foreignField", l.foreignField),
  ("let", .single "foreign_id" (if l.foreignId.isTruthy then l.foreignId else .text "$_id")),
  ("as", l.target),
  ("pipeline", .list l.pipeline)]

namespace Stage

/-- The stage that keeps the documents with a given value in a field. -/
def equality (field : String) (v : Value) : Stage := .filter (.single (.text field) (.equals v))

def toValue : Stage → Value
  | .filter query => .single "$match" query.toValue
  | .lookup join => .single "$lookup" join.toValue
  | .unwind path =>
      .single "$unwind"
        (.record [("path", .text path), ("preserveNullAndEmptyArrays", .bool false)])

end Stage

/-- The array that a join fills unless told otherwise. -/
def defaultTarget : String := "looked_up"

namespace Lookup

/-- A join that keeps documents without a partner. -/
def loose (l : Lookup) : List Stage := if l.collection.isTruthy then [.lookup l] else []

/-- The array of a join that drops documents without a partner, named after the collection
unless it has a name of its own. -/
def strictTarget (l : Lookup) : Except Error Value :=
  if l.target.isTruthy then .ok l.target
  else l.collection.write.map fun name => .text (String.ofList (name ++ "_looked_up".toList))

/-- A join that drops documents without a partner. Its array is unwound and therefore has
to have a proper name. -/
def strict (l : Lookup) : Except Error (List Stage) :=
  if l.collection.isTruthy then do
    let target ← l.strictTarget
    let path ← target.fieldPathOrFail
    return [.lookup { l with target := target }, .unwind path]
  else return []

end Lookup

end FilterPipeline
