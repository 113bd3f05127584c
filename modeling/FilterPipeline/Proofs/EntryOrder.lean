import FilterPipeline.Proofs.BuildSweep

/-!
Two runs of the same steps from dictionaries with the same entries in different orders. As rules
look entries up by their keys, each step does the same in both runs, also where it fails, and the
dictionaries keep the same entries. The order shows in the build at the end alone, which settles
what is left in the order in which it stands.
-/

namespace FilterPipeline.Builder

open Filters

section

variable [Host] {b c : Builder} {s : Step}

/-- Two builders that differ at most in the order of the entries of their dictionaries. -/
structure Reordered (b c : Builder) : Prop where
  filters : SameEntries b.filters c.filters
  query : SameEntries b.query c.query
  settings_eq : b.settings = c.settings
  timezone_eq : b.timezone = c.timezone
  zone_eq : b.zone = c.zone
  stages_eq : b.stages = c.stages
  unmatched_eq : b.unmatched = c.unmatched

namespace Reordered

theorem translate_eq (h : Reordered b c) (r : Rule) :
    r.translate (.ok b.zone) b.filters = r.translate (.ok c.zone) c.filters := by
  rw [h.zone_eq]
  exact Rule.translate_eq_of_agreeOn (h.filters.agreeOn _)

theorem translation?_eq (h : Reordered b c) (s : Step) : b.translation? s = c.translation? s := by
  rw [translation?, translation?, h.settings_eq]
  exact congrArg _ (funext fun r => congrArg Except.toOption (h.translate_eq r))

theorem emitted_eq (h : Reordered b c) (hs : s ≠ .build) : b.emitted s = c.emitted s := by
  cases s with
  | build => exact absurd rfl hs
  | lookup join pipeline => rw [emitted, emitted, h.settings_eq]
  | strictLookup join pipeline => rfl
  | _ => simp only [emitted, h.translation?_eq]

/-- A step does the same for both builders, or fails for both with the same error. -/
theorem outcome_eq (h : Reordered b c) (hs : s ≠ .build) : b.outcome s = c.outcome s := by
  cases hr : s.rule? b.settings with
  | some r =>
    have hr' : s.rule? c.settings = some r := h.settings_eq ▸ hr
    rw [outcome_of_rule b hr, outcome_of_rule c hr', h.translate_eq]
  | none =>
    rw [Builder.outcome_eq, Builder.outcome_eq, h.emitted_eq hs]
    cases s with
    | build => exact absurd rfl hs
    | apply | search | notDeleted => simp [Step.rule?] at hr
    | lookup join pipeline =>
      rw [step_lookup, step_lookup]
      cases join.elements pipeline <;> rfl
    | strictLookup join pipeline =>
      rw [step_strictLookup, step_strictLookup]
      cases (join.elements pipeline).bind join.strict <;> rfl
    | setTimezone v =>
      rw [step_setTimezone, step_setTimezone]
      cases v.zoneName with
      | error e => rfl
      | ok name =>
        dsimp only [Except.bind]
        cases findZone name <;> rfl
    | copyQuery | put | inspect | fails => rfl

theorem next_of_rule (h : Reordered b c) {r : Rule} (hr : s.rule? b.settings = some r) :
    Reordered (b.next s) (c.next s) := by
  have hr' : s.rule? c.settings = some r := h.settings_eq ▸ hr
  have hs : s ≠ .build := by
    rintro rfl
    cases hr
  have hconsumed : b.consumed s = c.consumed s := by
    rw [consumed, consumed, h.translation?_eq]
  rw [Builder.next_of_rule b hr, Builder.next_of_rule c hr']
  refine { h with filters := ?_, stages_eq := ?_ }
  · change SameEntries (b.filters.eraseAll (b.consumed s)) (c.filters.eraseAll (c.consumed s))
    rw [hconsumed]
    exact h.filters.eraseAll _
  · change b.stages ++ b.emitted s = c.stages ++ c.emitted s
    rw [h.stages_eq, h.emitted_eq hs]

theorem copyQuery (h : Reordered b c) : Reordered b.copyQuery c.copyQuery := by
  have hset (f : Filters) : ((f.entries.filter (·.2.isPresent)).map Prod.fst).Nodup :=
    f.nodup.sublist (List.filter_sublist.map _)
  have hsame : SameEntries ⟨_, hset b.filters⟩ ⟨_, hset c.filters⟩ := h.filters.filter _
  exact { h with query := hsame.foldl_insert h.query }

theorem next (h : Reordered b c) (hs : ¬ s.IsWrite) (hbuild : s ≠ .build) :
    Reordered (b.next s) (c.next s) := by
  cases s with
  | apply | search | notDeleted => exact h.next_of_rule rfl
  | lookup join pipeline =>
    rw [next_lookup, next_lookup]
    exact { h with stages_eq := congrArg₂ _ h.stages_eq (h.emitted_eq hbuild) }
  | strictLookup join pipeline =>
    rw [next_strictLookup, next_strictLookup]
    exact { h with stages_eq := congrArg₂ _ h.stages_eq (h.emitted_eq hbuild) }
  | setTimezone v =>
    rw [next_eq, next_eq, step_setTimezone, step_setTimezone]
    cases v.zoneName with
    | error e => exact h
    | ok name =>
      dsimp only [Except.bind]
      cases findZone name with
      | error e => exact h
      | ok z => exact { h with timezone_eq := rfl, zone_eq := rfl }
  | copyQuery => exact h.copyQuery
  | put key v => exact absurd trivial hs
  | inspect | fails => exact h
  | build => exact absurd rfl hbuild

theorem run (h : Reordered b c) {steps : List Step}
    (hsteps : ∀ s ∈ steps, ¬ s.IsWrite ∧ s ≠ .build) : Reordered (b.run steps) (c.run steps) := by
  induction steps generalizing b c with
  | nil => exact h
  | cons s rest ih =>
    rw [List.forall_mem_cons] at hsteps
    exact ih (h.next hsteps.1.1 hsteps.1.2) hsteps.2

end Reordered

/-- A builder for the same entries in another order differs from the first in that alone. -/
theorem exists_reordered {f g : Filters} {timezone : String} {settings : Settings}
    (hsame : SameEntries f g) (hb : create f timezone settings = .ok b) :
    ∃ c, create g timezone settings = .ok c ∧ Reordered b c ∧ b.filters = f ∧ c.filters = g := by
  rw [create_eq_map f rfl] at hb
  obtain ⟨z, hz, rfl⟩ := exists_of_map_eq_ok hb
  refine ⟨_, by rw [create_eq_map g rfl, hz]; rfl, ?_, rfl, rfl⟩
  exact ⟨hsame, .refl _, rfl, rfl, rfl, rfl, rfl⟩

/-- What a build at the end of a run makes of the entries that are left: equalities after the
stages of the run, and listed keys. Both stand in the order of the dictionary before the run. -/
structure EndsSwept (b : Builder) (steps : List Step) (equalities : List (String × Value))
    (listed : List String) : Prop where
  settles : Settles (b.run steps).filters.entries equalities listed
  stages_eq : (b.run (steps ++ [.build])).stages =
    (b.run steps).stages ++ equalities.map fun e => .equality e.1 e.2
  unmatched_eq : (b.run (steps ++ [.build])).unmatched = b.unmatched ++ listed
  equalities_sublist : equalities.Sublist b.filters.entries
  listed_sublist : listed.Sublist b.filters.keys

theorem entries_run_sublist {steps : List Step} (hsteps : ∀ s ∈ steps, ¬ s.IsWrite) :
    (b.run steps).filters.entries.Sublist b.filters.entries := by
  induction steps generalizing b with
  | nil => exact .refl _
  | cons s rest ih =>
    rw [List.forall_mem_cons] at hsteps
    rw [run_cons]
    refine (ih hsteps.2).trans ?_
    rw [(b.next_effect s).filters_eq hsteps.1]
    exact List.filter_sublist

theorem unmatched_run {steps : List Step} (hsteps : ∀ s ∈ steps, s ≠ .build) :
    (b.run steps).unmatched = b.unmatched := by
  induction steps generalizing b with
  | nil => rfl
  | cons s rest ih =>
    rw [List.forall_mem_cons] at hsteps
    have hswept : b.swept s = [] := by
      cases s with
      | build => exact absurd rfl hsteps.1
      | _ => rfl
    rw [run_cons, ih hsteps.2, (b.next_effect s).unmatched_eq, hswept]
    exact List.append_nil _

theorem exists_endsSwept (b : Builder) {steps : List Step}
    (hsteps : ∀ s ∈ steps, ¬ s.IsWrite ∧ s ≠ .build) :
    ∃ equalities listed, b.EndsSwept steps equalities listed := by
  have hsettles := settles_matched (b.run steps).filters.entries
  have hleft : (b.run steps).filters.entries.Sublist b.filters.entries :=
    entries_run_sublist fun s hs => (hsteps s hs).1
  refine ⟨_, _, hsettles, ?_, ?_, hsettles.sublist.trans hleft,
    hsettles.listed_sublist.trans (hleft.map _)⟩
  · rw [run_append]
    rfl
  · have hunmatched : (b.run steps).unmatched = b.unmatched :=
      unmatched_run fun s hs => (hsteps s hs).2
    rw [run_append, ← hunmatched]
    rfl

/-- The order of the entries matters to the build alone. Let two dictionaries have the same
entries, and let no step write or build. Then there is a builder for the one exactly as for the
other, every step has the same outcome in both runs, and the dictionaries hold the same entries
after each. A build at the end appends equalities that are the same up to their order, and lists
keys that are, each in the order of its own dictionary. -/
theorem order_shows_in_sweep {f g : Filters} {timezone : String} {settings : Settings}
    (hsame : SameEntries f g) (hb : create f timezone settings = .ok b) {steps : List Step}
    (hsteps : ∀ s ∈ steps, ¬ s.IsWrite ∧ s ≠ .build) :
    ∃ c, create g timezone settings = .ok c ∧ (b.filters = f ∧ c.filters = g) ∧
      (∀ i (hi : i < steps.length),
        (b.run (steps.take i)).outcome steps[i] = (c.run (steps.take i)).outcome steps[i]) ∧
      (∀ n, SameEntries (b.run (steps.take n)).filters (c.run (steps.take n)).filters) ∧
      (b.run steps).stages = (c.run steps).stages ∧
      ∃ equalities equalities' listed listed',
        b.EndsSwept steps equalities listed ∧ c.EndsSwept steps equalities' listed' ∧
        equalities.Perm equalities' ∧ listed.Perm listed' := by
  obtain ⟨c, hc, hreordered, hfilters⟩ := exists_reordered hsame hb
  have hbefore (n : Nat) : Reordered (b.run (steps.take n)) (c.run (steps.take n)) :=
    hreordered.run fun s hs => hsteps s (List.mem_of_mem_take hs)
  have hend := hreordered.run hsteps
  obtain ⟨equalities, listed, hswept⟩ := b.exists_endsSwept hsteps
  obtain ⟨equalities', listed', hswept'⟩ := c.exists_endsSwept hsteps
  exact ⟨c, hc, hfilters, fun i hi => (hbefore i).outcome_eq (hsteps _ (List.getElem_mem hi)).2,
    fun n => (hbefore n).filters, hend.stages_eq, equalities, equalities', listed, listed', hswept,
    hswept', hswept.settles.perm hswept'.settles hend.filters⟩

end

def nameFirst : Filters := .ofList
  [("name", .text "a"), ("age-gt", .int 3), ("no-such", .int 1), ("city", .text "b")]

def cityFirst : Filters := .ofList
  [("city", .text "b"), ("no-such", .int 1), ("age-gt", .int 3), ("name", .text "a")]

/-- A step that reads the bound, and one that fails. -/
def boundSteps : List Step := [.apply (.comparison (.text "age") .greater), .fails .notName]

/-- The bound is read alike, and the two equalities change places. -/
theorem order_shows_in_sweep_names :
    (∀ i (hi : i < boundSteps.length), ((usual nameFirst).run (boundSteps.take i)).outcome
      boundSteps[i] = ((usual cityFirst).run (boundSteps.take i)).outcome boundSteps[i]) ∧
    ∃ equalities equalities' listed listed',
      (usual nameFirst).EndsSwept boundSteps equalities listed ∧
      (usual cityFirst).EndsSwept boundSteps equalities' listed' ∧
      equalities = equalities'.reverse ∧ listed = listed' := by
  have hsame : SameEntries nameFirst cityFirst := List.reverse_perm cityFirst.entries
  have hsteps : ∀ s ∈ boundSteps, ¬ s.IsWrite ∧ s ≠ .build := by
    simp [boundSteps, Step.IsWrite]
  obtain ⟨c, hc, -, houtcome, -, -, equalities, equalities', listed, listed', hswept, hswept', -⟩ :=
    order_shows_in_sweep hsame (create_usual nameFirst) hsteps
  cases (create_usual cityFirst).symm.trans hc
  refine ⟨houtcome, equalities, equalities', listed, listed', hswept, hswept', ?_⟩
  obtain ⟨rfl, rfl⟩ := hswept.settles.unique (settles_matched _)
  obtain ⟨rfl, rfl⟩ := hswept'.settles.unique (settles_matched _)
  exact ⟨rfl, rfl⟩

end FilterPipeline.Builder
