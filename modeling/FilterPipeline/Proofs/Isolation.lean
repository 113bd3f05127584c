import FilterPipeline.Host.Published
import FilterPipeline.Proofs.PipelineRun
import FilterPipeline.Proofs.Run

/-!
Dictionaries in memory. A builder changes the dictionary that it was given in place, and
whoever else holds it sees that, also when a later step fails. A pipeline therefore takes a
copy of the caller's dictionary, and each of its callbacks gets a copy of that copy. This
module runs pipelines on a memory and shows that the copies are enough: every dictionary
that was there before stays as it was, and the stages are those of a pipeline that owns its
filters as a value.
-/

namespace FilterPipeline

/-- The dictionaries of a program. Each has its place, and a new one is put at the end. -/
abbrev Memory := List Filters

/-- What is run as a callback: steps on the builder that it gets, and an answer. -/
structure Program where
  steps : List Builder.Step
  reply : Reply

namespace Memory

def read (m : Memory) (place : Nat) : Filters := m.getD place .empty

theorem read_append_left {m : Memory} {place : Nat} (h : place < m.length) (rest : Memory) :
    read (m ++ rest) place = m.read place := by
  simp [read, List.getElem?_append_left h]

@[simp] theorem read_append_right (m rest : Memory) (f : Filters) :
    read (m ++ f :: rest) m.length = f := by
  simp [read]

theorem read_eq_of_prefix {m after : Memory} {place : Nat} (h : m <+: after)
    (hplace : place < m.length) : after.read place = m.read place := by
  obtain ⟨rest, rfl⟩ := h
  exact read_append_left hplace rest

end Memory

/-- A pipeline that holds its filters at a place in memory. -/
structure PlacedPipeline where
  base : Nat
  settings : Settings
  timezone : String
  stages : List Value

namespace PlacedPipeline

/-- A pipeline for a copy of the dictionary at a place. -/
def create (m : Memory) (given : Nat) (timezone : String) (settings : Settings) :
    Memory × PlacedPipeline :=
  (m ++ [m.read given],
    ⟨m.length, settings, if timezone = "" then settings.timezone else timezone, []⟩)

/-- The pipeline as it is seen in a memory. -/
def view (q : PlacedPipeline) (m : Memory) : Pipeline :=
  ⟨m.read q.base, q.settings, q.timezone, q.stages⟩

/-- Appends the stages of a step; one that fails appends none. -/
def append (q : PlacedPipeline) : Except Error (List Value) → PlacedPipeline
  | .ok vs => { q with stages := q.stages ++ vs }
  | .error _ => q

theorem view_append (q : PlacedPipeline) (m : Memory) (x : Except Error (List Value)) :
    (q.append x).view m = (q.view m).extend (x.toOption.getD []) := by
  cases x with
  | error e => exact ((q.view m).extend_nil).symm
  | ok vs => rfl

theorem base_append (q : PlacedPipeline) (x : Except Error (List Value)) :
    (q.append x).base = q.base := by
  cases x <;> rfl

end PlacedPipeline

section

variable [Host]

def Program.toCallback (c : Program) : Callback := .ofSteps c.steps c.reply

namespace Memory

/-- The builder as it is seen when its dictionary is at a place. -/
def view (m : Memory) (place : Nat) (b : Builder) : Builder := { b with filters := m.read place }

/-- Runs steps of a builder up to the first that fails. Its dictionary is changed at its place,
and what was done before a failure, also in the step that fails, stays done. -/
def runSteps (place : Nat) : Memory → Builder → List Builder.Step → Memory × Except Error Builder
  | m, b, [] => (m, .ok (m.view place b))
  | m, b, s :: rest =>
      match (Builder.act s).run (m.view place b) with
      | .error e after => (m.set place after.filters, .error e)
      | .ok _ after => runSteps place (m.set place after.filters) after rest

/-- Runs steps on a new builder, which gets a new dictionary. -/
def start (m : Memory) (filters : Filters) (timezone : String) (settings : Settings)
    (steps : List Builder.Step) : Memory × Except Error Builder :=
  match Builder.create filters timezone settings with
  | .error e => (m ++ [filters], .error e)
  | .ok b => runSteps m.length (m ++ [filters]) b steps

/-- Builds, which empties the dictionary at its place. -/
def build (m : Memory) (place : Nat) (b : Builder) : Memory × Except Error (List Value) :=
  (m.set place b.build.filters, .ok b.build.documents)

/-- The stages that a reply gives. Another builder gets a dictionary of its own too. -/
def answer (m : Memory) (place : Nat) (b : Builder) : Reply → Memory × Except Error (List Value)
  | .builder | .nothing | .built | .value .null => m.build place b
  | .stages => (m, .ok b.documents)
  | .value v => (m, (Answer.value v).stages)
  | .other filters timezone settings steps =>
      match m.start filters timezone settings steps with
      | (after, .error e) => (after, .error e)
      | (after, .ok other) => after.build m.length other

/-- Runs a program on a new builder for a copy of the dictionary at a place. -/
def compile (m : Memory) (base : Nat) (timezone : String) (settings : Settings) (c : Program) :
    Memory × Except Error (List Value) :=
  match m.start (m.read base) timezone settings c.steps with
  | (after, .error e) => (after, .error e)
  | (after, .ok b) => after.answer m.length b c.reply

end Memory

namespace PlacedPipeline

/-- What a call runs in memory; steps that run no program are as before. -/
inductive Call where
  | plain (s : Pipeline.Step)
  | matching (c : Program)
  | lookup (join : JoinRequest) (c : Program)
  | strictLookup (join : JoinRequest) (c : Program)

def Call.toStep : Call → Pipeline.Step
  | .plain s => s
  | .matching c => .matching (.callback c.toCallback)
  | .lookup join c => .lookup join (.callback c.toCallback)
  | .strictLookup join c => .strictLookup join (.callback c.toCallback)

def step (m : Memory) (q : PlacedPipeline) : Call → Memory × PlacedPipeline
  | .plain s => (m, q.append ((q.view m).added s))
  | .matching c =>
      let (after, stages) := m.compile q.base q.timezone q.settings c
      (after, q.append stages)
  | .lookup join c =>
      let (after, nested) := m.compile q.base q.timezone q.settings c
      (after, q.append (nested.map fun vs => (join.loose q.settings vs).map Stage.toValue))
  | .strictLookup join c =>
      let (after, nested) := m.compile q.base q.timezone q.settings c
      (after, q.append (nested.bind fun vs => (join.strict vs).map (·.map Stage.toValue)))

def run (m : Memory) (q : PlacedPipeline) : List Call → Memory × PlacedPipeline
  | [] => (m, q)
  | call :: rest =>
      let (after, q) := q.step m call
      q.run after rest

end PlacedPipeline

namespace Memory

/-- Steps on a builder whose dictionary stands at the end change that one alone. -/
theorem runSteps_last (m : Memory) (f : Filters) (b : Builder) (steps : List Builder.Step) :
    ∃ g, runSteps m.length (m ++ [f]) b steps =
        (m ++ [g], Builder.runAll { b with filters := f } steps) ∧
      ∀ b', Builder.runAll { b with filters := f } steps = .ok b' → b'.filters = g := by
  induction steps generalizing f b with
  | nil =>
    refine ⟨f, ?_, ?_⟩
    · simp [runSteps, view, Builder.runAll, pure, Except.pure]
    · intro b' hb'
      simp only [Builder.runAll, List.foldlM_nil, pure, Except.pure, Except.ok.injEq] at hb'
      rw [← hb']
  | cons s rest ih =>
    have hview : view (m ++ [f]) m.length b = { b with filters := f } := by simp [view]
    cases hs : Builder.step { b with filters := f } s with
    | error e =>
      refine ⟨f, ?_, ?_⟩
      · simp [runSteps, hview, Builder.run_of_error _ hs, hs, Builder.runAll, bind, Except.bind]
      · intro b' hb'
        simp [Builder.runAll, hs, bind, Except.bind] at hb'
    | ok next =>
      obtain ⟨g, hrun, hg⟩ := ih next.filters next
      refine ⟨g, ?_, ?_⟩
      · simpa [runSteps, hview, Builder.run_of_ok _ hs, hs, Builder.runAll, bind, Except.bind]
          using hrun
      · intro b' hb'
        apply hg
        simpa [Builder.runAll, hs, bind, Except.bind] using hb'

theorem start_eq (m : Memory) (f : Filters) (timezone : String) (settings : Settings)
    (steps : List Builder.Step) :
    ∃ g, m.start f timezone settings steps =
      (m ++ [g], Builder.create f timezone settings >>= fun b => b.runAll steps) := by
  unfold start
  cases hb : Builder.create f timezone settings with
  | error e => exact ⟨f, rfl⟩
  | ok b =>
    obtain ⟨g, hrun, _⟩ := runSteps_last m f b steps
    have hfilters : { b with filters := f } = b := by rw [← (Builder.create_parts hb).1]
    rw [hfilters] at hrun
    exact ⟨g, hrun⟩

/-- Building changes the dictionary of the builder only. -/
theorem prefix_build (m : Memory) (g : Filters) (b : Builder) :
    m <+: (build (m ++ [g]) m.length b).1 := by
  simp [build]

/-- A reply changes none of the dictionaries that were there before that of its builder. -/
theorem answer_spec (m : Memory) (g : Filters) (b : Builder) (reply : Reply) :
    m <+: (answer (m ++ [g]) m.length b reply).1 ∧
      (answer (m ++ [g]) m.length b reply).2 = reply.answer b >>= Answer.stages := by
  cases reply with
  | builder | nothing | built => exact ⟨prefix_build m g b, rfl⟩
  | stages => exact ⟨List.prefix_append m [g], rfl⟩
  | value v =>
    cases v with
    | null => exact ⟨prefix_build m g b, rfl⟩
    | _ => exact ⟨List.prefix_append m [g], rfl⟩
  | other filters timezone settings steps =>
    obtain ⟨h, hstart⟩ := start_eq (m ++ [g]) filters timezone settings steps
    have hanswer : (Reply.other filters timezone settings steps).answer b >>= Answer.stages =
        (Builder.create filters timezone settings >>= fun b => b.runAll steps) >>=
          fun other => .ok other.build.documents := by
      simp only [Reply.answer, bind_assoc]
      rfl
    rw [answer, hstart, hanswer]
    have hbase : m <+: m ++ [g] := List.prefix_append m [g]
    cases Builder.create filters timezone settings >>= fun b => b.runAll steps with
    | error e => exact ⟨hbase.trans (List.prefix_append _ [h]), rfl⟩
    | ok other => exact ⟨hbase.trans (prefix_build _ h other), rfl⟩

/-- A program leaves all dictionaries alone that were there when it was started, and gives the
stages that it gives as a callback. -/
theorem compile_spec (m : Memory) (base : Nat) (timezone : String) (settings : Settings)
    (c : Program) (stages : List Value) :
    m <+: (m.compile base timezone settings c).1 ∧
      (m.compile base timezone settings c).2 =
        Pipeline.compile ⟨m.read base, settings, timezone, stages⟩ c.toCallback := by
  obtain ⟨g, hstart⟩ := start_eq m (m.read base) timezone settings c.steps
  have hcompile : Pipeline.compile ⟨m.read base, settings, timezone, stages⟩ c.toCallback =
      (Builder.create (m.read base) timezone settings >>= fun b => b.runAll c.steps) >>=
        fun b => c.reply.answer b >>= Answer.stages := by
    simp only [Pipeline.compile, Program.toCallback, Callback.ofSteps, bind_assoc]
  rw [compile, hstart, hcompile]
  cases Builder.create (m.read base) timezone settings >>= fun b => b.runAll c.steps with
  | error e => exact ⟨List.prefix_append m [g], rfl⟩
  | ok b => exact answer_spec m g b c.reply

end Memory

namespace PlacedPipeline

variable (q : PlacedPipeline) (m : Memory)

/-- What a program gives to a pipeline in memory it gives as a callback too. -/
theorem compile_view (c : Program) :
    m <+: (m.compile q.base q.timezone q.settings c).1 ∧
      (m.compile q.base q.timezone q.settings c).2 = (q.view m).compile c.toCallback :=
  m.compile_spec q.base q.timezone q.settings c q.stages

/-- A step in memory leaves alone what is there, and appends what the same step adds to a
pipeline that owns its filters. -/
theorem exists_step (call : Call) :
    ∃ after, m <+: after ∧
      q.step m call = (after, q.append ((q.view m).added call.toStep)) := by
  cases call with
  | plain s => exact ⟨m, List.prefix_refl m, rfl⟩
  | matching c =>
    obtain ⟨hkept, hstages⟩ := q.compile_view m c
    refine ⟨_, hkept, ?_⟩
    simp only [step, hstages]
    rfl
  | lookup join c =>
    obtain ⟨hkept, hstages⟩ := q.compile_view m c
    refine ⟨_, hkept, ?_⟩
    simp only [step, hstages, Call.toStep, Pipeline.added, Pipeline.nested]
    cases (q.view m).compile c.toCallback <;> rfl
  | strictLookup join c =>
    obtain ⟨hkept, hstages⟩ := q.compile_view m c
    refine ⟨_, hkept, ?_⟩
    simp only [step, hstages, Call.toStep, Pipeline.added, Pipeline.nested]
    cases (q.view m).compile c.toCallback with
    | error e => rfl
    | ok vs =>
      simp only [Except.bind, bind]
      cases join.strict vs <;> rfl

theorem step_spec (hbase : q.base < m.length) (call : Call) :
    m <+: (q.step m call).1 ∧ (q.step m call).2.base = q.base ∧
      (q.step m call).2.view (q.step m call).1 = (q.view m).next call.toStep := by
  obtain ⟨after, hkept, hstep⟩ := q.exists_step m call
  rw [hstep]
  refine ⟨hkept, q.base_append _, ?_⟩
  have hview : q.view after = q.view m := by
    rw [view, view, Memory.read_eq_of_prefix hkept hbase]
  rw [view_append, hview, Pipeline.next_eq_extend]
  rfl

theorem run_spec (hbase : q.base < m.length) (calls : List Call) :
    m <+: (q.run m calls).1 ∧
      (q.run m calls).2.view (q.run m calls).1 = (q.view m).run (calls.map Call.toStep) := by
  induction calls generalizing m q with
  | nil => exact ⟨List.prefix_refl m, rfl⟩
  | cons call rest ih =>
    obtain ⟨hkept, hsame, hview⟩ := q.step_spec m hbase call
    have hnext : (q.step m call).2.base < (q.step m call).1.length := by
      rw [hsame]
      exact Nat.lt_of_lt_of_le hbase hkept.length_le
    obtain ⟨hrest, hrun⟩ := ih (q.step m call).2 (q.step m call).1 hnext
    refine ⟨hkept.trans hrest, ?_⟩
    rw [List.map_cons, Pipeline.run_cons, ← hview]
    exact hrun

/-- A pipeline made for a dictionary in memory behaves as one that owns it, whatever runs. -/
theorem create_run_spec (given : Nat) (timezone : String) (settings : Settings)
    (calls : List Call) :
    let start := create m given timezone settings
    m <+: (start.2.run start.1 calls).1 ∧
      (start.2.run start.1 calls).2.view (start.2.run start.1 calls).1 =
        (Pipeline.create (m.read given) timezone settings).run (calls.map Call.toStep) := by
  intro start
  have hbase : start.2.base < start.1.length := by simp [start, create]
  obtain ⟨hkept, hview⟩ := start.2.run_spec start.1 hbase calls
  have hstart : start.2.view start.1 = Pipeline.create (m.read given) timezone settings := by
    simp [start, create, view, Pipeline.create]
  exact ⟨(List.prefix_append m _).trans hkept, hstart ▸ hview⟩

end PlacedPipeline

namespace Pipeline

/-- The steps of a pipeline do not notice each other. What a step appends is a matter of that
step and of what the pipeline was made from, and nothing if it fails; a run gives the
concatenation. Neither the filters of the pipeline nor, in memory, the dictionary that they
were copied from is changed by any run, whatever its programs do to their own copies. -/
theorem steps_isolated (filters : Filters) (timezone : String) (settings : Settings) :
    let p := create filters timezone settings
    (∀ before s, (p.run before).step s = (p.added s).map (p.run before).extend) ∧
    (∀ steps, (p.run steps).stages = steps.flatMap p.contribution) ∧
    (∀ front back, (p.run (front ++ back)).stages = (p.run front).stages ++ (p.run back).stages) ∧
    (∀ front s back e, (p.run front).step s = .error e →
      p.contribution s = [] ∧ p.run (front ++ s :: back) = p.run (front ++ back)) ∧
    (∀ steps, (p.run steps).filters = filters) ∧
    (∀ (m : Memory) (given : Nat) (calls : List PlacedPipeline.Call),
      given < m.length → m.read given = filters →
      let start := PlacedPipeline.create m given timezone settings
      let after := start.2.run start.1 calls
      after.2.view after.1 = p.run (calls.map PlacedPipeline.Call.toStep) ∧
        (after.2.view after.1).filters = filters ∧ after.1.read given = filters) := by
  intro p
  have hstages : ∀ steps, (p.run steps).stages = steps.flatMap p.contribution := by
    intro steps
    rw [run_eq_extend, stages_extend]
    exact List.nil_append _
  have hfilters : ∀ steps, (p.run steps).filters = filters := by
    intro steps
    rw [run_eq_extend, filters_extend]
    rfl
  refine ⟨p.step_run, hstages, ?_, ?_, hfilters, ?_⟩
  · intro front back
    rw [hstages, hstages, hstages, List.flatMap_append]
  · intro front s back e hfails
    refine ⟨?_, p.run_delete hfails⟩
    have hnone := contribution_of_fails _ hfails
    rwa [run_eq_extend, contribution_extend] at hnone
  · intro m given calls hgiven hread start after
    obtain ⟨hkept, hview⟩ := PlacedPipeline.create_run_spec m given timezone settings calls
    rw [hread] at hview
    refine ⟨hview, ?_, ?_⟩
    · exact (congrArg Pipeline.filters hview).trans (hfilters _)
    · exact (Memory.read_eq_of_prefix hkept hgiven).trans hread

end Pipeline

end

namespace Pipeline

def openOrders : Filters := .ofList [("status", .text "open"), ("age-gt", .int 3)]

/-- One program uses a key up, writes another one and has the rest swept. The other one writes
and then fails. -/
def busyCalls : List PlacedPipeline.Call :=
  [.matching ⟨[.apply (.comparison (.text "age") .greater), .put "note" (.text "a")], .nothing⟩,
    .matching ⟨[.put "status" .null, .fails .badKey], .builder⟩]

/-- The copies of both programs are changed, the dictionaries behind them are not. -/
theorem steps_isolated_busyCalls :
    let start := PlacedPipeline.create [openOrders] 0 "UTC" .default
    let after := start.2.run start.1 busyCalls
    (after.2.view after.1).filters = openOrders ∧ after.1.read 0 = openOrders ∧
      (after.1.map fun f => f.entries.map fun e => (e.1, e.2.isPresent)) =
        [[("status", true), ("age-gt", true)], [("status", true), ("age-gt", true)], [],
          [("status", false), ("age-gt", true)]] ∧
      (create openOrders "UTC" .default).run ([] ++ .matching (.value .null) :: []) =
        (create openOrders "UTC" .default).run ([] ++ []) := by
  intro start after
  obtain ⟨_, _, _, hdelete, _, hmemory⟩ := steps_isolated openOrders "UTC" .default
  obtain ⟨_, hfilters, hgiven⟩ := hmemory [openOrders] 0 busyCalls (by decide) rfl
  refine ⟨hfilters, hgiven, by decide, ?_⟩
  exact (hdelete [] (.matching (.value .null)) [] (.badMatch .null) rfl).2

end Pipeline

end FilterPipeline
