import FilterPipeline.Host.Published
import FilterPipeline.Proofs.Isolation
import FilterPipeline.Proofs.Joins

/-!
Joins in builders and in pipelines. Both are asked for a join in the same words and make the same
stages of it, so that for one request a step of a pipeline and a step of a builder append the same
or fail alike. A strict join is the loose one into another array and the unwinding of that array,
and a callback stands for the list that its builder builds. A join looks at the settings only: no
dictionary is changed by it, and no key is used up.
-/

namespace FilterPipeline

/-- A join keeps the documents without a partner, or it drops them. -/
inductive JoinKind where
  | loose
  | strict

namespace JoinKind

variable (k : JoinKind) (settings : Settings) {join : JoinRequest} (nested : List Value)

/-- The stages of a join whose documents pass the given stages. -/
def stages (settings : Settings) (join : JoinRequest) (nested : List Value) :
    JoinKind → Except Error (List Stage)
  | loose => .ok (join.loose settings nested)
  | strict => join.strict nested

theorem stages_of_no_collection (h : join.collection.isTruthy = false) :
    k.stages settings join nested = .ok [] := by
  cases k with
  | loose => simp [stages, JoinRequest.loose_eq, h]
  | strict =>
    have hlookup : (join.toLookup nested).collection.isTruthy = false := h
    simp [stages, JoinRequest.strict, Lookup.strict, hlookup, pure, Except.pure]

/-- A builder that need not look at the pipeline makes the same of it. -/
theorem elements_bind_stages (join : JoinRequest) {given : Value} {nested : List Value}
    (hgiven : given.elementsOrFail = .ok nested) :
    (join.elements given >>= fun vs => k.stages settings join vs) =
      k.stages settings join nested := by
  unfold JoinRequest.elements
  cases hcollection : join.collection.isTruthy with
  | true =>
    rw [if_pos rfl, hgiven]
    rfl
  | false =>
    -- The pipeline is not looked at, and there is no stage that it would go into.
    rw [k.stages_of_no_collection settings nested hcollection]
    exact k.stages_of_no_collection settings [] hcollection

end JoinKind

/-- Writing back what was read changes nothing. -/
theorem Memory.set_read (m : Memory) (place : Nat) : m.set place (m.read place) = m := by
  by_cases h : place < m.length
  · simp [read, h]
  · exact List.set_eq_of_length_le (Nat.le_of_not_lt h)

section

variable [Host]

namespace JoinKind

def builderStep : JoinKind → JoinRequest → Value → Builder.Step
  | loose => .lookup
  | strict => .strictLookup

def pipelineStep : JoinKind → JoinRequest → StageSource → Pipeline.Step
  | loose => .lookup
  | strict => .strictLookup

/-- The call of a pipeline in memory for a join with what a program gives. -/
def call : JoinKind → JoinRequest → Program → PlacedPipeline.Call
  | loose => .lookup
  | strict => .strictLookup

end JoinKind

section Outcome

variable (k : JoinKind) (join : JoinRequest) {given : Value} {nested : List Value}

theorem Builder.outcome_join (b : Builder) (given : Value) :
    b.outcome (k.builderStep join given) =
      join.elements given >>= fun vs => k.stages b.settings join vs := by
  rw [outcome_eq]
  cases k with
  | loose =>
    rw [JoinKind.builderStep, step_lookup, emitted]
    cases join.elements given <;> rfl
  | strict =>
    rw [JoinKind.builderStep, step_strictLookup, emitted]
    cases join.elements given with
    | error e => rfl
    | ok vs =>
      simp only [JoinKind.stages, bind, Except.bind]
      cases join.strict vs <;> rfl

theorem Builder.outcome_of_elements (b : Builder) (hgiven : given.elementsOrFail = .ok nested) :
    b.outcome (k.builderStep join given) = k.stages b.settings join nested := by
  rw [outcome_join, k.elements_bind_stages b.settings join hgiven]

theorem Pipeline.outcome_join (p : Pipeline) (source : StageSource) :
    p.outcome (k.pipelineStep join source) =
      p.nested source >>= fun vs => (k.stages p.settings join vs).map (List.map Stage.toValue) := by
  rw [outcome_eq]
  cases k with
  | loose => rfl
  | strict =>
    simp only [JoinKind.pipelineStep, JoinKind.stages, added]
    cases p.nested source with
    | error e => rfl
    | ok vs =>
      simp only [bind, Except.bind]
      cases join.strict vs <;> rfl

/-- A callback is a way to give the stages that it compiles to. -/
theorem Pipeline.outcome_callback (p : Pipeline) (c : Callback) :
    p.outcome (k.pipelineStep join (.callback c)) =
      p.compile c >>= fun vs => p.outcome (k.pipelineStep join (.value (.list vs))) := by
  simp only [outcome_join, nested]
  rfl

end Outcome

/-- What a callback leaves of the builder that it is given: a builder that it hands back, its own
one as it is when nothing is handed back, or the list that this builder builds. -/
inductive Callback.Leaves (c : Callback) (start : Builder) : Builder → Prop where
  | builder {b : Builder} (h : c start = .ok (.builder b)) : c.Leaves start b
  | nothing {b : Builder} (h : c start = .ok (.nothing b)) : c.Leaves start b
  | list {b : Builder} (h : c start = .ok (.value (.list b.build.documents))) : c.Leaves start b

theorem Callback.Leaves.compile_eq {p : Pipeline} {c : Callback} {start b : Builder}
    (hstart : Builder.create p.filters p.timezone p.settings = .ok start)
    (h : c.Leaves start b) : p.compile c = .ok b.build.documents := by
  have hanswer : p.compile c = c start >>= Answer.stages := by
    rw [Pipeline.compile, hstart]
    rfl
  rw [hanswer]
  cases h with
  | builder h | nothing h | list h =>
    rw [h]
    rfl

namespace Builder

variable (b : Builder) (k : JoinKind) (join : JoinRequest) (given : Value)

theorem spent_join : b.spent (k.builderStep join given) = [] := by
  cases k <;> rw [spent, consumed_eq_nil b rfl] <;> rfl

theorem next_join : b.next (k.builderStep join given) =
    { b with stages := b.stages ++ b.emitted (k.builderStep join given) } := by
  cases k with
  | loose => exact b.next_lookup join given
  | strict => exact b.next_strictLookup join given

theorem filters_of_step_join {after : Builder}
    (h : b.step (k.builderStep join given) = .ok after) : after.filters = b.filters := by
  have hnext : after = { b with stages := b.stages ++ b.emitted (k.builderStep join given) } := by
    rw [← b.next_join k join given, b.next_of_ok h]
  rw [hnext]

end Builder

theorem Memory.runSteps_join (m : Memory) (place : Nat) (b : Builder) (k : JoinKind)
    (join : JoinRequest) (given : Value) :
    (m.runSteps place b [k.builderStep join given]).1 = m := by
  cases h : (m.view place b).step (k.builderStep join given) with
  | error e =>
    have hfilters : (m.view place b).filters = m.read place := rfl
    simp only [runSteps, Builder.run_of_error _ h, hfilters, set_read]
  | ok after =>
    have hfilters : after.filters = m.read place :=
      (m.view place b).filters_of_step_join k join given h
    simp only [runSteps, Builder.run_of_ok _ h, hfilters, set_read]

namespace Pipeline

/-- What a join does in a pipeline and in a builder. -/
structure JoinsAlike (p : Pipeline) (b : Builder) (k : JoinKind) (join : JoinRequest) : Prop where
  /-- For the same stages of the joined documents both append the same, or fail alike. -/
  same : ∀ given nested, Value.elementsOrFail given = .ok nested →
    p.outcome (k.pipelineStep join (.value given)) =
      (b.outcome (k.builderStep join given)).map (List.map Stage.toValue)
  /-- A callback stands for the list that its builder builds. -/
  compiled : ∀ (c : Callback) start built,
    Builder.create p.filters p.timezone p.settings = .ok start → c.Leaves start built →
    p.outcome (k.pipelineStep join (.callback c)) =
      p.outcome (k.pipelineStep join (.value (.list built.build.documents)))
  /-- Without a collection nothing is appended. -/
  idle : join.collection.isTruthy = false →
    (∀ given, b.outcome (k.builderStep join given) = .ok []) ∧
      ∀ source, p.contribution (k.pipelineStep join source) = []
  /-- All of a builder but its stages stays as it is, and no key is used. -/
  unspent : ∀ given, b.spent (k.builderStep join given) = [] ∧
    b.next (k.builderStep join given) =
      { b with stages := b.stages ++ b.emitted (k.builderStep join given) }
  /-- A pipeline keeps its filters. -/
  kept : ∀ source, (p.next (k.pipelineStep join source)).filters = p.filters

theorem joinsAlike {p : Pipeline} {b : Builder} (hsettings : p.settings = b.settings)
    (k : JoinKind) (join : JoinRequest) : p.JoinsAlike b k join where
  same given nested hgiven := by
    have hnested : p.nested (.value given) = .ok nested := hgiven
    rw [outcome_join, hnested, hsettings, b.outcome_of_elements k join hgiven]
    rfl
  compiled c start built hstart hleaves := by
    rw [outcome_callback, hleaves.compile_eq hstart]
    rfl
  idle hcollection := by
    refine ⟨fun given => ?_, fun source => ?_⟩
    · have helements : join.elements given = .ok [] := by simp [JoinRequest.elements, hcollection]
      rw [Builder.outcome_join, helements]
      exact k.stages_of_no_collection b.settings [] hcollection
    · rw [contribution, ← outcome_eq, outcome_join]
      cases p.nested source with
      | error e => rfl
      | ok vs =>
        have hstages := k.stages_of_no_collection p.settings vs hcollection
        simp only [bind, Except.bind, hstages, Except.map, List.map_nil, Except.toOption,
          Option.getD_some]
  unspent given := ⟨b.spent_join k join given, b.next_join k join given⟩
  kept source := by rw [next_eq_extend, filters_extend]

/-- With the same settings a pipeline and a builder join alike, whatever they have gone through. For
a collection the loose join is one stage. The strict join is that stage with another array, followed
by the unwinding of this array; its name is the one that is asked for, or made from that of the
collection, so there is one whenever a text or nothing is asked for, unless it would be made from a
collection that cannot be written, in which case the strict join fails. In memory no dictionary is
changed that was there before, also when a pipeline runs a program for the join. -/
theorem joins_agree {p : Pipeline} {b : Builder} (hsettings : p.settings = b.settings)
    (join : JoinRequest) :
    (∀ k, p.JoinsAlike b k join) ∧
    (∀ given nested, Value.elementsOrFail given = .ok nested → join.collection.isTruthy = true →
      let found : Lookup := { join.toLookup nested with target := join.looseTarget b.settings }
      b.outcome (JoinKind.loose.builderStep join given) = .ok [.lookup found] ∧
        ∀ name, join.IsStrictTarget name →
          b.outcome (JoinKind.strict.builderStep join given) =
            .ok [.lookup { found with target := .text name }, .unwind (fieldPath name)]) ∧
    (join.target = .null ∨ (∃ t, join.target = .text t) →
      (join.target.isTruthy = true ∨ join.collection.isWritable = true →
        ∃ name, join.IsStrictTarget name) ∧
      (join.target.isTruthy = false → join.collection.isWritable = false →
        join.collection.isTruthy = true → ∀ given nested, Value.elementsOrFail given = .ok nested →
        b.outcome (JoinKind.strict.builderStep join given) = .error .tooManyDigits)) ∧
    (∀ (k : JoinKind) (m : Memory) place given,
      (m.runSteps place b [k.builderStep join given]).1 = m) ∧
    ∀ (k : JoinKind) (m : Memory) (q : PlacedPipeline) c place, place < m.length →
      (q.step m (k.call join c)).1.read place = m.read place := by
  refine ⟨fun k => joinsAlike hsettings k join, ?_,
    fun htarget => ⟨JoinRequest.exists_isStrictTarget htarget, ?_⟩,
    fun k m place given => m.runSteps_join place b k join given, ?_⟩
  · intro given nested hgiven hcollection found
    refine ⟨?_, fun name hname => ?_⟩
    · rw [b.outcome_of_elements _ join hgiven, JoinKind.stages, JoinRequest.loose_eq,
        if_pos hcollection]
    · rw [b.outcome_of_elements _ join hgiven]
      exact Lookup.strict_eq hcollection (hname.strictTarget_eq nested)
  · intro hunnamed hunwritable hcollection given nested hgiven
    rw [b.outcome_of_elements _ join hgiven]
    exact JoinRequest.strict_of_unwritable hcollection hunnamed hunwritable nested
  · intro k m q c place hplace
    obtain ⟨after, hkept, hstep⟩ := q.exists_step m (k.call join c)
    rw [hstep]
    exact Memory.read_eq_of_prefix hkept hplace

end Pipeline

end

namespace Pipeline

/-- The orders of a user, into an array without a name of its own. -/
def userOrders : JoinRequest := ⟨.text "orders", .text "userId", .text "_id", .null, .null⟩

/-- A bound that a rule can use, and a value that is left for the sweep. -/
def openOver : Filters := .ofList [("total-gt", .int 3), ("status", .text "open")]

/-- A program that uses the bound and hands nothing back. -/
def overSteps : Program := ⟨[.apply (.comparison (.text "total") .greater)], .nothing⟩

/-- What the program builds is joined by the pipeline as the same list is by a builder, and the
dictionary that it was made for is still there. -/
theorem joins_agree_userOrders :
    let p := create openOver "UTC" .default
    let b := Builder.usual openOver
    let built := b.run overSteps.steps
    (∀ k : JoinKind, p.outcome (k.pipelineStep userOrders (.callback overSteps.toCallback)) =
      (b.outcome (k.builderStep userOrders (.list built.build.documents))).map
        (List.map Stage.toValue)) ∧
      b.outcome (JoinKind.strict.builderStep userOrders (.list [])) =
        .ok [.lookup ⟨.text "orders", [], .text "userId", .text "_id",
          .text "orders_looked_up", .null⟩, .unwind "$orders_looked_up"] ∧
      ((PlacedPipeline.mk 0 .default "UTC" []).step [openOver]
        (JoinKind.strict.call userOrders overSteps)).1.read 0 = openOver ∧
      p.contribution (JoinKind.strict.pipelineStep { userOrders with collection := .text "" }
        (.callback overSteps.toCallback)) = [] := by
  intro p b built
  have hsettings : p.settings = b.settings := rfl
  obtain ⟨halike, hstages, -, -, hmemory⟩ := joins_agree hsettings userOrders
  have hleaves : overSteps.toCallback.Leaves b built := .nothing rfl
  refine ⟨fun k => ?_, ?_, hmemory _ _ _ _ _ (by decide), ?_⟩
  · rw [(halike k).compiled _ _ _ (Builder.create_usual openOver) hleaves]
    exact (halike k).same _ _ rfl
  · exact (hstages (.list []) [] rfl (by decide)).2 "orders_looked_up" (.made rfl rfl)
  · obtain ⟨hidle, -⟩ := joins_agree hsettings { userOrders with collection := .text "" }
    exact ((hidle .strict).idle rfl).2 _

end Pipeline

end FilterPipeline
