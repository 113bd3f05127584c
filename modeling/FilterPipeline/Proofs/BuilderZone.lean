import FilterPipeline.Host.Published
import FilterPipeline.Proofs.Failures
import FilterPipeline.Proofs.Run

/-!
The zone of a builder. It is named when the builder is made and again by every step that sets
it and succeeds, and such a step only succeeds with a name that stands for a zone. So the name
can be resolved in every state that a run reaches, and no step that makes stages ever finds it
unknown: all that can go wrong in a rule besides comes from the values that it is given.
-/

namespace FilterPipeline

namespace Builder

section

variable [Host] (b : Builder)

/-- The name that a step makes the zone's, if it is one of a zone. -/
def Step.newZone? : Step → Option String
  | .setTimezone (.text name) => (Zone.resolve name).toOption.map fun _ => name
  | _ => none

/-- A step that makes stages from what it is given or finds in the dictionary. -/
def Step.MakesStages : Step → Prop
  | .apply _ | .search _ _ | .notDeleted | .lookup _ _ | .strictLookup _ _ => True
  | _ => False

theorem findZone_of_ok {name : String} {z : Zone} (h : Zone.resolve name = .ok z) :
    findZone name = .ok ⟨z, h⟩ := by
  unfold findZone
  revert h
  generalize Zone.resolve name = found
  rintro rfl
  rfl

theorem findZone_of_error {name : String} {e : Error} (h : Zone.resolve name = .error e) :
    findZone name = .error e := by
  unfold findZone
  revert h
  generalize Zone.resolve name = found
  rintro rfl
  rfl

/-- Setting the zone succeeds exactly with the name of one, which is its name from then on, and
leaves the builder as it was otherwise. -/
theorem setTimezone_cases (v : Value) :
    (∃ e, (act (.setTimezone v)).run b = .error e b ∧ (Step.setTimezone v).newZone? = none) ∨
      ∃ name z hz, v = .text name ∧ (Step.setTimezone v).newZone? = some name ∧
        (act (.setTimezone v)).run b =
          .ok () { b with timezone := name, zone := z, zone_eq := hz } := by
  cases v with
  | text name =>
    cases hz : Zone.resolve name with
    | error e =>
      refine Or.inl ⟨e, ?_, by simp [Step.newZone?, hz, Except.toOption]⟩
      simp only [act, run_setTimezone, Value.zoneName, findZone_of_error hz]
    | ok z =>
      refine Or.inr ⟨name, z, hz, rfl, by simp [Step.newZone?, hz, Except.toOption], ?_⟩
      simp only [act, run_setTimezone, Value.zoneName, findZone_of_ok hz]
  | _ => exact Or.inl ⟨_, rfl, rfl⟩

theorem next_timezone (s : Step) : (b.next s).timezone = s.newZone?.getD b.timezone := by
  cases s with
  | apply | search | notDeleted =>
    rw [next_of_rule b rfl]
    rfl
  | lookup join pipeline =>
    rw [next_lookup]
    rfl
  | strictLookup join pipeline =>
    rw [next_strictLookup]
    rfl
  | setTimezone v =>
    rcases b.setTimezone_cases v with ⟨e, hrun, hnew⟩ | ⟨name, z, hz, _, hnew, hrun⟩
    · rw [hnew, next, hrun]
      rfl
    · rw [hnew, next, hrun]
      rfl
  | copyQuery | put | build | inspect | fails => rfl

/-- A step that makes stages fails because of what it is given or finds in the dictionary. -/
theorem step_failsOnly {s : Step} (hs : s.MakesStages) :
    FailsOnly (b.step s) fun e => e = .notIterable ∨ e.IsOfValues := by
  have hrule : ∀ r, s.rule? b.settings = some r →
      FailsOnly (b.step s) fun e => e = .notIterable ∨ e.IsOfValues := by
    intro r hr
    rw [step_eq_map b hr]
    refine ((r.translate_failsOnly _ _).map b.absorb).mono fun e he => ?_
    exact Or.inr (he.resolve_left fun hzone => by cases hzone)
  cases s with
  | apply | search | notDeleted => exact hrule _ rfl
  | lookup join pipeline =>
    rw [step_lookup]
    exact ((join.elements_failsOnly pipeline).map _).mono fun _ => Or.inl
  | strictLookup join pipeline =>
    rw [step_strictLookup]
    refine FailsOnly.map _ (FailsOnly.bind ((join.elements_failsOnly pipeline).mono fun _ => Or.inl)
      fun vs => (join.strict_failsOnly vs).mono fun _ => Or.inr)
  | _ => exact absurd hs id

/-- The zone has the name that was last given to it. -/
theorem run_timezone (steps : List Step) :
    (b.run steps).timezone =
      (steps.filterMap Step.newZone?).getLast?.getD b.timezone := by
  induction steps generalizing b with
  | nil => rfl
  | cons s rest ih =>
    rw [run_cons, ih, next_timezone]
    cases hs : s.newZone? with
    | none => rw [List.filterMap_cons_none hs, Option.getD_none]
    | some name =>
      rw [List.filterMap_cons_some hs, List.getLast?_cons, Option.getD_some, Option.getD_some]

/-- A step that fails might as well be left out. -/
theorem run_delete {s : Step} {e : Error} {after : Builder} {steps : List Step}
    (h : (act s).run (b.run steps) = .error e after) (rest : List Step) :
    b.run (steps ++ s :: rest) = b.run (steps ++ rest) := by
  have hafter : after = b.run steps := act_error _ h
  rw [run_append, run_append, run_cons, next, h, hafter]

theorem timezone_of_create {filters : Filters} {timezone : String} {settings : Settings}
    (hb : create filters timezone settings = .ok b) :
    b.timezone = if timezone = "" then settings.timezone else timezone := by
  rw [create_eq_map filters rfl] at hb
  obtain ⟨z, -, rfl⟩ := exists_of_map_eq_ok hb
  rfl

/-- The zone of a builder can be resolved by its name in every state. The name is the one that the
builder was made with, or else the one that was set last with success. Setting it changes nothing
else, and nothing at all if it fails. Rules are applied in the zone of that name, and no step that
makes stages finds it missing. -/
theorem zone_in_effect {filters : Filters} {timezone : String} {settings : Settings}
    (hb : create filters timezone settings = .ok b) (steps : List Step) :
    (b.run steps).timezone = (steps.filterMap Step.newZone?).getLast?.getD
      (if timezone = "" then settings.timezone else timezone) ∧
    Zone.resolve (b.run steps).timezone = .ok (b.run steps).zone ∧
    (∀ v after, (act (.setTimezone v)).run (b.run steps) = .ok () after →
      ∃ name z hz, v = .text name ∧ (Step.setTimezone v).newZone? = some name ∧
        after = { b.run steps with timezone := name, zone := z, zone_eq := hz }) ∧
    (∀ v e after, (act (.setTimezone v)).run (b.run steps) = .error e after →
      after = b.run steps ∧ (Step.setTimezone v).newZone? = none ∧
        ∀ rest, b.run (steps ++ .setTimezone v :: rest) = b.run (steps ++ rest)) ∧
    (∀ s r, s.rule? (b.run steps).settings = some r →
      (b.run steps).step s = (r.translate (Zone.resolve (b.run steps).timezone)
        (b.run steps).filters).map (b.run steps).absorb) ∧
    (∀ s name, s.MakesStages → (b.run steps).step s ≠ .error (.unknownZone name) ∧
      (b.run steps).step s ≠ .error (.unreadableZone name)) := by
  refine ⟨timezone_of_create b hb ▸ b.run_timezone steps, (b.run steps).zone_eq, ?_, ?_, ?_, ?_⟩
  · intro v after hafter
    rcases (b.run steps).setTimezone_cases v with ⟨e, hrun, _⟩ | ⟨name, z, hz, hv, hnew, hrun⟩
    · rw [hrun] at hafter
      cases hafter
    · rw [hrun] at hafter
      cases hafter
      exact ⟨name, z, hz, hv, hnew, rfl⟩
  · intro v e after hafter
    refine ⟨act_error _ hafter, ?_, b.run_delete hafter⟩
    rcases (b.run steps).setTimezone_cases v with ⟨_, _, hnew⟩ | ⟨name, z, hz, _, _, hrun⟩
    · exact hnew
    · rw [hrun] at hafter
      cases hafter
  · intro s r hr
    rw [(b.run steps).zone_eq]
    exact step_eq_map _ hr
  · intro s name hs
    have hfails := (b.run steps).step_failsOnly hs
    constructor
    · intro h
      rcases hfails.of_error _ h with hjoin | hvalues
      · cases hjoin
      · exact hvalues
    · intro h
      rcases hfails.of_error _ h with hjoin | hvalues
      · cases hjoin
      · exact hvalues

end

/-- A run that moves to Berlin, and to no place that is unknown or has no name. -/
def travels : List Step := [
  .setTimezone (.text "Europe/Berlin"),
  .setTimezone (.text "Mars/Olympus"),
  .setTimezone (.int 3),
  .apply (.dayRange (.text "due"))]

theorem zone_in_effect_travels :
    create (.ofList [("due-from", .text "2023-05-17")]) "" .default =
      .ok (usual (.ofList [("due-from", .text "2023-05-17")])) ∧
    ((usual (.ofList [("due-from", .text "2023-05-17")])).run travels).timezone =
      "Europe/Berlin" := by
  have hcreate : create (.ofList [("due-from", .text "2023-05-17")]) "" .default =
      .ok (usual (.ofList [("due-from", .text "2023-05-17")])) := rfl
  refine ⟨hcreate, ?_⟩
  rw [(zone_in_effect _ hcreate travels).1]
  rfl

end Builder

end FilterPipeline
