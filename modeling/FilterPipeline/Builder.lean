import FilterPipeline.Rule
import FilterPipeline.Settings

/-!
Stage builders. A builder owns one dictionary for its lifetime. Each rule that is applied
appends its stage and removes the keys it has read, so that no key is used twice. Building
turns the bare keys that are left into equalities, reports the other ones, and empties the
dictionary. A step acts on the builder piece by piece, and what it has changed before it fails
would stay changed.
-/

namespace FilterPipeline

variable [Host]

structure Builder where
  filters : Filters
  settings : Settings
  timezone : String
  zone : Zone
  stages : List Stage
  /-- The values that were set when they were last copied. -/
  query : Filters
  /-- The keys that no rule has read and that are no equalities. -/
  unmatched : List String
  zone_eq : Zone.resolve timezone = .ok zone

/-- A join as it is asked for, without its pipeline. Without a target or an identifier the
usual ones are meant, and without a collection nothing is joined. -/
structure JoinRequest where
  collection : Value
  localField : Value
  foreignField : Value
  target : Value
  foreignId : Value
deriving Repr

namespace JoinRequest

def toLookup (r : JoinRequest) (pipeline : List Value) : Lookup :=
  ⟨r.collection, pipeline, r.localField, r.foreignField, r.target, r.foreignId⟩

/-- A join that keeps documents without a partner, into the array of the settings unless
another one is named. -/
def loose (r : JoinRequest) (settings : Settings) (pipeline : List Value) : List Stage :=
  let target := if r.target.isTruthy then r.target else .text settings.lookupAlias
  ({ r with target := target }.toLookup pipeline).loose

/-- A join that drops documents without a partner. -/
def strict (r : JoinRequest) (pipeline : List Value) : Except Error (List Stage) :=
  (r.toLookup pipeline).strict

/-- The elements of a pipeline; it is looked at only if there is a collection to join. -/
def elements (r : JoinRequest) (pipeline : Value) : Except Error (List Value) :=
  if r.collection.isTruthy then pipeline.elementsOrFail else .ok []

end JoinRequest

namespace Builder

/-- The zone that a name stands for, together with the evidence. -/
def findZone (name : String) : Except Error { z : Zone // Zone.resolve name = .ok z } :=
  match Zone.resolve name with
  | .ok z => .ok ⟨z, rfl⟩
  | .error e => .error e

/-- A builder for a dictionary. Without a zone of its own it takes that of the settings. -/
def create (filters : Filters) (timezone : String) (settings : Settings) :
    Except Error Builder := do
  let name := if timezone = "" then settings.timezone else timezone
  let z ← findZone name
  return ⟨filters, settings, name, z.1, [], .empty, [], z.2⟩

inductive Step where
  | apply (rule : Rule)
  /-- A search for a text, with the options of the settings unless some are given. -/
  | search (field options : Value)
  /-- A soft delete guard on the field of the settings. -/
  | notDeleted
  | lookup (join : JoinRequest) (pipeline : Value)
  | strictLookup (join : JoinRequest) (pipeline : Value)
  | setTimezone (name : Value)
  /-- Copies the values that are set. -/
  | copyQuery
  | put (key : String) (v : Value)
  | build
  /-- Looks at the builder only. -/
  | inspect
  /-- A step that cannot be carried out. -/
  | fails (cause : Error)
deriving Repr

/-- The rule that a step applies, if it applies one. -/
def Step.rule? (settings : Settings) : Step → Option Rule
  | .apply rule => some rule
  | .search field options => some (.search field (settings.searchOptions options))
  | .notDeleted => some (.notDeleted (.text settings.softDeleteField))
  | _ => none

/-- What a step does to a builder. It may fail at any point, and leaves a builder then too. -/
abbrev Action := EStateM Error Builder Unit

def extend (stages : List Stage) : Action := modify fun b => { b with stages := b.stages ++ stages }

def removeKeys (keys : List String) : Action :=
  modify fun b => { b with filters := b.filters.eraseAll keys }

def applyRule (rule : Rule) : Action := do
  let b ← get
  let t ← MonadExcept.ofExcept (rule.translate (.ok b.zone) b.filters)
  extend t.stages
  removeKeys t.consumed

def setTimezone (v : Value) : Action := do
  let name ← MonadExcept.ofExcept v.zoneName
  let z ← MonadExcept.ofExcept (findZone name)
  modify fun b => { b with timezone := name, zone := z.1, zone_eq := z.2 }

def copyQuery (b : Builder) : Builder :=
  let set := b.filters.entries.filter (·.2.isPresent)
  { b with query := set.foldl (fun q e => q.insert e.1 e.2) b.query }

/-- The equalities that the entries of a dictionary stand for. -/
def sweep (entries : List (String × Value)) : List Stage :=
  (entries.filter fun e => e.2.isPresent && isSweepable e.1).map fun e => .equality e.1 e.2

/-- The keys that are set but stand for no equality. -/
def leftovers (entries : List (String × Value)) : List String :=
  (entries.filter fun e => e.2.isPresent && !isSweepable e.1).map Prod.fst

def build (b : Builder) : Builder :=
  { b with
    stages := b.stages ++ sweep b.filters.entries
    unmatched := b.unmatched ++ leftovers b.filters.entries
    filters := .empty }

def act : Step → Action
  | .apply rule => applyRule rule
  | .search field options => do
      let b ← get
      applyRule (.search field (b.settings.searchOptions options))
  | .notDeleted => do
      let b ← get
      applyRule (.notDeleted (.text b.settings.softDeleteField))
  | .lookup join pipeline => do
      let vs ← MonadExcept.ofExcept (join.elements pipeline)
      let b ← get
      extend (join.loose b.settings vs)
  | .strictLookup join pipeline => do
      let vs ← MonadExcept.ofExcept (join.elements pipeline)
      let stages ← MonadExcept.ofExcept (join.strict vs)
      extend stages
  | .setTimezone name => setTimezone name
  | .copyQuery => modify copyQuery
  | .put key v => modify fun b => { b with filters := b.filters.insert key v }
  | .build => modify build
  | .inspect => pure ()
  | .fails cause => throw cause

/-- The builder after a step that succeeds. -/
def step (b : Builder) (s : Step) : Except Error Builder :=
  match (act s).run b with
  | .ok _ after => .ok after
  | .error e _ => .error e

/-- The builder that a step leaves, whether or not it fails. -/
def next (b : Builder) (s : Step) : Builder :=
  match (act s).run b with
  | .ok _ after | .error _ after => after

/-- Runs steps up to the first that fails. -/
def runAll (b : Builder) (steps : List Step) : Except Error Builder := steps.foldlM step b

/-- Runs every step, whether or not those before it have failed. -/
def run (b : Builder) (steps : List Step) : Builder := steps.foldl next b

/-- The stages as documents. -/
def documents (b : Builder) : List Value := b.stages.map Stage.toValue

end Builder

end FilterPipeline
