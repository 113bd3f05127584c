import FilterPipeline.Pipeline

/-!
What a pipeline makes of a run. A step looks at the filters, the zone and the settings only,
none of which any step changes, so it appends the same stages wherever it stands, and a run
appends what its steps append.
-/

namespace FilterPipeline.Pipeline

section

variable (p : Pipeline)

/-- The pipeline with more stages at its end. -/
def extend (vs : List Value) : Pipeline := { p with stages := p.stages ++ vs }

@[simp] theorem stages_extend (vs : List Value) : (p.extend vs).stages = p.stages ++ vs := rfl

@[simp] theorem filters_extend (vs : List Value) : (p.extend vs).filters = p.filters := rfl

@[simp] theorem extend_nil : p.extend [] = p := by
  simp [extend]

@[simp] theorem extend_extend (vs ws : List Value) :
    (p.extend vs).extend ws = p.extend (vs ++ ws) := by
  simp [extend]

end

variable [Host] (p : Pipeline)

/-- The stages that a step adds; one that fails adds none. -/
def contribution (s : Step) : List Value := (p.added s).toOption.getD []

/-- The stages that a step appends, as they are seen from outside, or why it fails. -/
def outcome (s : Step) : Except Error (List Value) :=
  (p.step s).map fun after => after.stages.drop p.stages.length

/-- The stages that are there already play no part in a step. -/
@[simp] theorem added_extend (vs : List Value) (s : Step) : (p.extend vs).added s = p.added s := by
  cases s <;> rfl

@[simp] theorem contribution_extend (vs : List Value) :
    (p.extend vs).contribution = p.contribution := by
  funext s
  simp only [contribution, added_extend]

/-- What a step appends comes with its success, and one that fails leaves the pipeline as it
was. -/
theorem run_act (s : Step) : (act s).run p =
    match p.added s with
    | .ok vs => .ok () (p.extend vs)
    | .error e => .error e p := by
  change (MonadExcept.ofExcept (p.added s) >>= fun vs =>
    modify fun p => { p with stages := p.stages ++ vs } : EStateM Error Pipeline Unit).run p = _
  cases p.added s <;> rfl

theorem step_eq_map (s : Step) : p.step s = (p.added s).map p.extend := by
  rw [step, run_act]
  cases p.added s <;> rfl

theorem next_eq_extend (s : Step) : p.next s = p.extend (p.contribution s) := by
  rw [next, run_act, contribution]
  cases p.added s with
  | error e => exact p.extend_nil.symm
  | ok vs => rfl

theorem outcome_eq (s : Step) : p.outcome s = p.added s := by
  rw [outcome, step_eq_map]
  cases p.added s with
  | error e => rfl
  | ok vs => simp only [Except.map, stages_extend, List.drop_left]

theorem contribution_of_fails {s : Step} {e : Error} (h : p.step s = .error e) :
    p.contribution s = [] := by
  rw [step_eq_map] at h
  cases hs : p.added s with
  | error e => simp [contribution, hs, Except.toOption]
  | ok vs => simp [hs, Except.map] at h

@[simp] theorem run_nil : p.run [] = p := rfl

@[simp] theorem run_cons (s : Step) (rest : List Step) : p.run (s :: rest) = (p.next s).run rest :=
  rfl

theorem run_append (front back : List Step) : p.run (front ++ back) = (p.run front).run back :=
  List.foldl_append ..

theorem run_eq_extend (steps : List Step) :
    p.run steps = p.extend (steps.flatMap p.contribution) := by
  induction steps generalizing p with
  | nil => simp
  | cons s rest ih =>
    rw [run_cons, ih, next_eq_extend, contribution_extend, extend_extend, List.flatMap_cons]

/-- A step does the same after any run. -/
theorem step_run (before : List Step) (s : Step) :
    (p.run before).step s = (p.added s).map (p.run before).extend := by
  rw [step_eq_map, run_eq_extend p before, added_extend]

/-- A step that fails might as well be left out. -/
theorem run_delete {front back : List Step} {s : Step} {e : Error}
    (h : (p.run front).step s = .error e) : p.run (front ++ s :: back) = p.run (front ++ back) := by
  have hnext : (p.run front).next s = p.run front := by
    rw [next_eq_extend, contribution_of_fails _ h, extend_nil]
  rw [run_append, run_cons, hnext, run_append]

end FilterPipeline.Pipeline
