import FilterPipeline.Host.Published
import FilterPipeline.Proofs.Joins
import FilterPipeline.Proofs.PipelineRun
import FilterPipeline.Proofs.Run

/-!
The ways in which a callback hands its stages back. A pipeline makes the builder that a caller
would make, so a callback that hands the builder back, or nothing, or the list that it has
built, gives what the builder gives on its own; the list before the last build lacks what
that build sweeps. What a callback gives in a match step is also what a join nests.
-/

namespace FilterPipeline

section

variable [Host]

namespace Builder

/-- An empty name stands for the zone of the settings, also when that was looked up before. -/
theorem create_resolved (filters : Filters) (timezone : String) (settings : Settings) :
    create filters (if timezone = "" then settings.timezone else timezone) settings =
      create filters timezone settings := by
  have hname : (if (if timezone = "" then settings.timezone else timezone) = "" then
      settings.timezone else if timezone = "" then settings.timezone else timezone) =
      if timezone = "" then settings.timezone else timezone := by
    by_cases h : timezone = "" <;> simp [h]
  rw [create_eq_map filters hname, create_eq_map filters rfl]

/-- The documents that a build adds: an equality for each entry that is set and bare. -/
def sweptDocuments (b : Builder) : List Value :=
  (b.filters.entries.filter fun e => e.2.isPresent && isSweepable e.1).map fun e =>
    .single "$match" (.single e.1 e.2)

theorem documents_build (b : Builder) : b.build.documents = b.documents ++ b.sweptDocuments := by
  simp only [documents, build, sweptDocuments, sweep, List.map_append, List.map_map]
  rfl

end Builder

namespace Pipeline

variable {p : Pipeline} {c : Callback} {vs : List Value}

/-- Wherever it is run, a callback gives these stages: in a match step as they are, and in a
join, which has a collection, as those of the joined documents. A strict join has a name for
its array or none, and then one can be made from the collection. -/
structure Delivers (p : Pipeline) (c : Callback) (vs : List Value) : Prop where
  matching : p.step (.matching (.callback c)) = .ok (p.extend vs)
  lookup : ∀ join : JoinRequest, join.collection.isTruthy = true →
    p.step (.lookup join (.callback c)) = .ok (p.extend
      [Stage.toValue (.lookup
        { collection := join.collection
          pipeline := vs
          localField := join.localField
          foreignField := join.foreignField
          target := join.looseTarget p.settings
          foreignId := join.foreignId })])
  strictLookup : ∀ join : JoinRequest, join.collection.isTruthy = true →
    (join.target = .null ∨ ∃ name, join.target = .text name) →
    (join.target.isTruthy = true ∨ join.collection.isWritable = true) →
    ∃ name, (join.toLookup vs).strictTarget = .ok (.text name) ∧
      p.step (.strictLookup join (.callback c)) = .ok (p.extend
        [Stage.toValue (.lookup
          { collection := join.collection
            pipeline := vs
            localField := join.localField
            foreignField := join.foreignField
            target := .text name
            foreignId := join.foreignId }),
          Stage.toValue (.unwind (fieldPath name))])

/-- What a callback compiles to is all that a step looks at. -/
theorem delivers_of_compile (h : p.compile c = .ok vs) : p.Delivers c vs where
  matching := by
    rw [step_eq_map, added, h]
    rfl
  lookup join hjoin := by
    have hadded : p.added (.lookup join (.callback c)) =
        .ok ((join.loose p.settings vs).map Stage.toValue) := by
      simp only [added, nested, h]
      rfl
    rw [step_eq_map, hadded, JoinRequest.loose_eq, if_pos hjoin]
    rfl
  strictLookup join hjoin htarget hwritable := by
    obtain ⟨name, hname, hstrict⟩ := JoinRequest.exists_strict hjoin htarget hwritable vs
    refine ⟨name, hname, ?_⟩
    simp only [step_eq_map, added, nested, h, bind, Except.bind, hstrict]
    rfl

variable {filters : Filters} {timezone : String} {settings : Settings}
variable {start b : Builder} {steps : List Builder.Step}

/-- A callback made of steps that do not fail comes down to its reply. -/
theorem compile_ofSteps (hstart : Builder.create filters timezone settings = .ok start)
    (hrun : start.runAll steps = .ok b) (before : List Step) (reply : Reply) :
    ((create filters timezone settings).run before).compile (.ofSteps steps reply) =
      reply.answer b >>= Answer.stages := by
  have hcreate : Builder.create filters (create filters timezone settings).timezone settings =
      .ok start := (Builder.create_resolved filters timezone settings).trans hstart
  rw [run_eq_extend]
  change (Builder.create filters (create filters timezone settings).timezone settings >>=
    fun b => Callback.ofSteps steps reply b >>= Answer.stages) = _
  rw [hcreate]
  change (start.runAll steps >>= fun b => reply.answer b) >>= Answer.stages = _
  rw [hrun]
  rfl

/-- Handing the builder back, handing nothing back and handing the built list back all give the
stages of a builder that a caller has made for the same filters, run and built. The list
before the build is a beginning of these, and what is missing are the equalities for the
entries that are left, set and bare. -/
theorem callback_forms_agree (hstart : Builder.create filters timezone settings = .ok start)
    (hrun : start.runAll steps = .ok b) (before : List Step) :
    let p := (create filters timezone settings).run before
    p.Delivers (.ofSteps steps .builder) b.build.documents ∧
      p.Delivers (.ofSteps steps .nothing) b.build.documents ∧
      p.Delivers (.ofSteps steps .built) b.build.documents ∧
      p.Delivers (.ofSteps steps .stages) b.documents ∧
      b.build.documents = b.documents ++ b.sweptDocuments := by
  have hcompile := compile_ofSteps hstart hrun before
  refine ⟨?_, ?_, ?_, ?_, b.documents_build⟩
  · exact delivers_of_compile (hcompile .builder)
  · exact delivers_of_compile (hcompile .nothing)
  · exact delivers_of_compile (hcompile .built)
  · exact delivers_of_compile (hcompile .stages)

end Pipeline

end

namespace Pipeline

/-- A bound for a rule to read, and a name to sweep. -/
def namedAge : Filters := .ofList [("age-gt", .int 3), ("name", .text "a")]

/-- Steps that read a key, build in between, move to another zone and write keys again. -/
def rebuildSteps : List Builder.Step :=
  [.apply (.comparison (.text "age") .greater), .build, .setTimezone (.text "Europe/Berlin"),
    .put "note" (.text "b"), .put "no-such" (.int 1)]

theorem callback_forms_agree_rebuild :
    let b := (Builder.usual namedAge).run rebuildSteps
    (create namedAge "UTC" .default).Delivers (.ofSteps rebuildSteps .nothing) b.build.documents ∧
      (create namedAge "UTC" .default).Delivers (.ofSteps rebuildSteps .stages) b.documents ∧
      b.build.documents = b.documents ++ [.single "$match" (.single "note" (.text "b"))] := by
  intro b
  have hrun : (Builder.usual namedAge).runAll rebuildSteps = .ok b := rfl
  obtain ⟨_, hnothing, _, hstages, hbuild⟩ :=
    callback_forms_agree (Builder.create_usual namedAge) hrun []
  exact ⟨hnothing, hstages, hbuild⟩

end Pipeline

end FilterPipeline
