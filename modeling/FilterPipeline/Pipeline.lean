import FilterPipeline.Builder

/-!
Pipelines. A pipeline is assembled from stages in the order of the calls. Stages may be
compiled by callbacks, each of which gets a builder of its own for the same filters, so
that what one step appends depends on that step alone.
-/

namespace FilterPipeline

variable [Host]

/-- What a callback hands back. -/
inductive Answer where
  /-- A builder, either its own or another one. -/
  | builder (b : Builder)
  /-- Nothing, so that the builder it was given counts, as the callback left it. -/
  | nothing (b : Builder)
  /-- Any other value; it has to be a list of stages. -/
  | value (v : Value)

/-- A callback works on a builder and may fail. -/
abbrev Callback := Builder → Except Error Answer

/-- The stages that an answer stands for. -/
def Answer.stages : Answer → Except Error (List Value)
  | .builder b | .nothing b => .ok b.build.documents
  | .value (.list vs) => .ok vs
  | .value v => .error (.badAnswer v)

/-- Ways to answer after some steps. -/
inductive Reply where
  | builder
  | nothing
  /-- The stages after a final build. -/
  | built
  /-- The stages as they are. -/
  | stages
  | value (v : Value)
  /-- Another builder, for which steps of its own are run. -/
  | other (filters : Filters) (timezone : String) (settings : Settings)
      (steps : List Builder.Step)

def Reply.answer (b : Builder) : Reply → Except Error Answer
  | .builder => .ok (.builder b)
  | .nothing => .ok (.nothing b)
  | .built => .ok (.value (.list b.build.documents))
  | .stages => .ok (.value (.list b.documents))
  | .value .null => .ok (.nothing b)
  | .value v => .ok (.value v)
  | .other filters timezone settings steps => do
      let other ← Builder.create filters timezone settings
      let other ← other.runAll steps
      return .builder other

/-- The callback that runs some steps and then replies. -/
def Callback.ofSteps (steps : List Builder.Step) (reply : Reply) : Callback := fun b => do
  let b ← b.runAll steps
  reply.answer b

/-- Stages given as a value or by a callback. -/
inductive StageSource where
  | value (v : Value)
  | callback (c : Callback)

structure Pipeline where
  filters : Filters
  settings : Settings
  timezone : String
  stages : List Value

namespace Pipeline

/-- A pipeline for some filters. Its zone is looked up only when a callback runs. -/
def create (filters : Filters) (timezone : String) (settings : Settings) : Pipeline :=
  ⟨filters, settings, if timezone = "" then settings.timezone else timezone, []⟩

inductive Step where
  | matching (source : StageSource)
  | sort (v : Value)
  | project (v : Value)
  | group (v : Value)
  | limit (v : Value)
  | skip (v : Value)
  | unwind (v : Value)
  | rawLookup (v : Value)
  | lookup (join : JoinRequest) (source : StageSource)
  | strictLookup (join : JoinRequest) (source : StageSource)
  | stage (v : Value)
  /-- Looks at the pipeline only. -/
  | inspect
  /-- A step that cannot be carried out. -/
  | fails (cause : Error)

/-- Runs a callback on a fresh builder for the filters. -/
def compile (p : Pipeline) (c : Callback) : Except Error (List Value) := do
  let b ← Builder.create p.filters p.timezone p.settings
  let answer ← c b
  answer.stages

/-- The stages of a joined collection. -/
def nested (p : Pipeline) : StageSource → Except Error (List Value)
  | .callback c => p.compile c
  | .value v => v.elementsOrFail

def fieldsStage (name : String) (v : Value) : Except Error (List Value) := do
  let fields ← v.toFields
  return [.single name (.document fields)]

/-- The stages that a step appends. -/
def added (p : Pipeline) : Step → Except Error (List Value)
  | .matching (.callback c) => p.compile c
  | .matching (.value (.document fields)) => .ok [.single "$match" (.document fields)]
  | .matching (.value v) => .error (.badMatch v)
  | .sort v => fieldsStage "$sort" v
  | .project v => fieldsStage "$project" v
  | .group v => fieldsStage "$group" v
  | .limit v => .ok [.single "$limit" v]
  | .skip v => .ok [.single "$skip" v]
  | .unwind (.text field) => .ok [.single "$unwind" (.text (fieldPath field))]
  | .unwind v => fieldsStage "$unwind" v
  | .rawLookup v => fieldsStage "$lookup" v
  | .lookup join source => do
      let vs ← p.nested source
      return (join.loose p.settings vs).map Stage.toValue
  | .strictLookup join source => do
      let vs ← p.nested source
      return (← join.strict vs).map Stage.toValue
  | .stage v => .ok [v]
  | .inspect => .ok []
  | .fails cause => .error cause

/-- What a step does to a pipeline, which it leaves when it fails too. -/
def act (s : Step) : EStateM Error Pipeline Unit := do
  let p ← get
  let vs ← MonadExcept.ofExcept (p.added s)
  modify fun p => { p with stages := p.stages ++ vs }

/-- The pipeline after a step that succeeds. -/
def step (p : Pipeline) (s : Step) : Except Error Pipeline :=
  match (act s).run p with
  | .ok _ after => .ok after
  | .error e _ => .error e

/-- The pipeline that a step leaves, whether or not it fails. -/
def next (p : Pipeline) (s : Step) : Pipeline :=
  match (act s).run p with
  | .ok _ after | .error _ after => after

/-- Runs every step, whether or not those before it have failed. -/
def run (p : Pipeline) (steps : List Step) : Pipeline := steps.foldl next p

end Pipeline

end FilterPipeline
