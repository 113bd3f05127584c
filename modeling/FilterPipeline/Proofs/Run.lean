import FilterPipeline.Builder
import FilterPipeline.Proofs.Locality

/-!
What one step does to a builder, and what a run of steps adds up to. A step that fails leaves
the builder as it found it, since all that can fail comes before the first change. Apart from
writing, a step only ever removes keys: those that a rule consumes and those that a build
sweeps. It appends a block of stages and, when it builds, lists what it could not use.
-/

namespace FilterPipeline.Builder

variable [Host] (b : Builder) {s : Step}

/-- Appends the stages of a translation and removes the keys it has consumed. -/
def absorb (t : Translation) : Builder :=
  { b with stages := b.stages ++ t.stages, filters := b.filters.eraseAll t.consumed }

/-- What a rule makes of the dictionary at a step that applies one without failing. -/
def translation? (s : Step) : Option Translation :=
  (s.rule? b.settings).bind fun r => (r.translate (.ok b.zone) b.filters).toOption

/-- The keys that a rule consumes at a step. -/
def consumed (s : Step) : List String := ((b.translation? s).map Translation.consumed).getD []

/-- The entries that a build sweeps at a step. -/
def swept : Step → List (String × Value)
  | .build => b.filters.entries
  | _ => []

/-- The keys that a step removes. -/
def spent (s : Step) : List String := b.consumed s ++ (b.swept s).map Prod.fst

/-- The stages that a step appends. -/
def emitted : Step → List Stage
  | .build => sweep b.filters.entries
  | .lookup join pipeline =>
      ((join.elements pipeline).toOption.map (join.loose b.settings)).getD []
  | .strictLookup join pipeline =>
      ((join.elements pipeline).bind join.strict).toOption.getD []
  | s => ((b.translation? s).map Translation.stages).getD []

/-- The stages that a step appends, as they are seen from outside, or why it fails. -/
def outcome (s : Step) : Except Error (List Stage) :=
  (b.step s).map fun after => after.stages.drop b.stages.length

/-- The steps of a run, each with the builder that it finds. -/
def history : Builder → List Step → List (Builder × Step)
  | _, [] => []
  | b, s :: rest => (b, s) :: history (b.next s) rest

/-- A step that sets a key of the dictionary. -/
def Step.IsWrite : Step → Prop
  | .put _ _ => True
  | _ => False

/-- A new builder for a dictionary, in universal time and with the settings that nobody has
changed. -/
def usual (f : Filters) : Builder := ⟨f, .default, "UTC", .utc, [], .empty, [], rfl⟩

theorem create_usual (f : Filters) : create f "UTC" .default = .ok (usual f) := rfl

/-- All of a new builder but its dictionary and its settings comes from the name of its zone. -/
theorem create_eq_map (filters : Filters) {timezone : String} {settings : Settings} {name : String}
    (hname : (if timezone = "" then settings.timezone else timezone) = name) :
    create filters timezone settings =
      (findZone name).map fun z => ⟨filters, settings, name, z.1, [], .empty, [], z.2⟩ := by
  subst hname
  dsimp only [create]
  cases findZone (if timezone = "" then settings.timezone else timezone) <;> rfl

theorem create_parts {b : Builder} {filters : Filters} {timezone : String} {settings : Settings}
    (hb : create filters timezone settings = .ok b) : b.filters = filters ∧ b.stages = [] := by
  rw [create_eq_map filters rfl] at hb
  obtain ⟨z, -, rfl⟩ := exists_of_map_eq_ok hb
  exact ⟨rfl, rfl⟩

theorem run_applyRule (r : Rule) : (applyRule r).run b =
    match r.translate (.ok b.zone) b.filters with
    | .ok t => .ok () (b.absorb t)
    | .error e => .error e b := by
  change (MonadExcept.ofExcept (r.translate (.ok b.zone) b.filters) >>= fun t => do
    extend t.stages
    removeKeys t.consumed : Action).run b = _
  cases r.translate (.ok b.zone) b.filters <;> rfl

theorem act_of_rule {r : Rule} (h : s.rule? b.settings = some r) :
    (act s).run b = (applyRule r).run b := by
  cases s <;> cases h <;> rfl

theorem run_setTimezone (v : Value) : (setTimezone v).run b =
    match v.zoneName with
    | .ok name =>
        match findZone name with
        | .ok z => .ok () { b with timezone := name, zone := z.1, zone_eq := z.2 }
        | .error e => .error e b
    | .error e => .error e b := by
  unfold setTimezone
  cases v.zoneName with
  | error e => rfl
  | ok name =>
    dsimp only
    change (MonadExcept.ofExcept (findZone name) >>= fun z => _ : Action).run b = _
    cases findZone name <;> rfl

theorem run_lookup (join : JoinRequest) (pipeline : Value) :
    (act (.lookup join pipeline)).run b =
    match join.elements pipeline with
    | .ok vs => .ok () { b with stages := b.stages ++ join.loose b.settings vs }
    | .error e => .error e b := by
  rw [act]
  cases join.elements pipeline <;> rfl

theorem run_strictLookup (join : JoinRequest) (pipeline : Value) :
    (act (.strictLookup join pipeline)).run b =
    match (join.elements pipeline).bind join.strict with
    | .ok stages => .ok () { b with stages := b.stages ++ stages }
    | .error e => .error e b := by
  rw [act]
  cases join.elements pipeline with
  | error e => rfl
  | ok vs =>
    change (MonadExcept.ofExcept (join.strict vs) >>= extend : Action).run b = _
    rw [Except.bind]
    cases join.strict vs <;> rfl

/-- A step that fails leaves the builder as it was. -/
theorem act_error {e : Error} {after : Builder} (h : (act s).run b = .error e after) :
    after = b := by
  cases s with
  | apply | search | notDeleted =>
    rw [act_of_rule b rfl, run_applyRule] at h
    split at h <;> cases h
    rfl
  | lookup =>
    rw [run_lookup] at h
    split at h <;> cases h
    rfl
  | strictLookup =>
    rw [run_strictLookup] at h
    split at h <;> cases h
    rfl
  | setTimezone v =>
    rw [act, run_setTimezone] at h
    split at h
    · split at h <;> cases h
      rfl
    · cases h
      rfl
  | copyQuery | put | build | inspect => cases h
  | fails =>
    cases h
    rfl

theorem run_of_ok {after : Builder} (h : b.step s = .ok after) : (act s).run b = .ok () after := by
  unfold step at h
  cases hrun : (act s).run b with
  | ok _ left =>
    rw [hrun] at h
    rw [Except.ok.inj h]
  | error e left =>
    rw [hrun] at h
    cases h

theorem run_of_error {e : Error} (h : b.step s = .error e) : (act s).run b = .error e b := by
  unfold step at h
  cases hrun : (act s).run b with
  | ok _ left =>
    rw [hrun] at h
    cases h
  | error e' left =>
    rw [hrun] at h
    cases h
    rw [b.act_error hrun]

theorem next_of_ok {after : Builder} (h : b.step s = .ok after) : b.next s = after := by
  rw [next, b.run_of_ok h]

theorem next_of_error {e : Error} (h : b.step s = .error e) : b.next s = b := by
  rw [next, b.run_of_error h]

/-- The builder after a step is that of its success; one that fails changes nothing. -/
theorem next_eq (s : Step) : b.next s = (b.step s).toOption.getD b := by
  cases h : b.step s with
  | ok after => exact b.next_of_ok h
  | error e => exact b.next_of_error h

theorem step_eq_map {r : Rule} (h : s.rule? b.settings = some r) :
    b.step s = (r.translate (.ok b.zone) b.filters).map b.absorb := by
  rw [step, act_of_rule b h, run_applyRule]
  cases r.translate (.ok b.zone) b.filters <;> rfl

theorem step_lookup (join : JoinRequest) (pipeline : Value) :
    b.step (.lookup join pipeline) = (join.elements pipeline).map fun vs =>
      { b with stages := b.stages ++ join.loose b.settings vs } := by
  rw [step, run_lookup]
  cases join.elements pipeline <;> rfl

theorem step_strictLookup (join : JoinRequest) (pipeline : Value) :
    b.step (.strictLookup join pipeline) = ((join.elements pipeline).bind join.strict).map
      fun stages => { b with stages := b.stages ++ stages } := by
  rw [step, run_strictLookup]
  cases (join.elements pipeline).bind join.strict <;> rfl

theorem step_setTimezone (v : Value) :
    b.step (.setTimezone v) = v.zoneName.bind fun name => (findZone name).map fun z =>
      { b with timezone := name, zone := z.1, zone_eq := z.2 } := by
  rw [step, act, run_setTimezone]
  cases v.zoneName with
  | error e => rfl
  | ok name =>
    dsimp only [Except.bind]
    cases findZone name <;> rfl

theorem translation?_eq {r : Rule} (h : s.rule? b.settings = some r) :
    b.translation? s = (r.translate (.ok b.zone) b.filters).toOption := by
  simp only [translation?, h, Option.bind_some]

theorem translation?_eq_some_iff {t : Translation} :
    b.translation? s = some t ↔
      ∃ r, s.rule? b.settings = some r ∧ r.translate (.ok b.zone) b.filters = .ok t := by
  rw [translation?, Option.bind_eq_some_iff]
  constructor
  · rintro ⟨r, hr, ht⟩
    cases htr : r.translate (.ok b.zone) b.filters with
    | error e => simp [htr, Except.toOption] at ht
    | ok u => exact ⟨r, hr, by simpa [htr, Except.toOption] using ht⟩
  · rintro ⟨r, hr, ht⟩
    exact ⟨r, hr, by rw [ht]; rfl⟩

theorem next_eq_absorb {t : Translation} (h : b.translation? s = some t) :
    b.next s = b.absorb t := by
  obtain ⟨r, hr, ht⟩ := b.translation?_eq_some_iff.mp h
  rw [next_eq, step_eq_map b hr, ht]
  rfl

theorem next_eq_self {r : Rule} (hr : s.rule? b.settings = some r)
    (h : b.translation? s = none) : b.next s = b := by
  rw [translation?_eq b hr] at h
  rw [next_eq, step_eq_map b hr]
  cases htr : r.translate (.ok b.zone) b.filters with
  | error e => rfl
  | ok u => simp [htr, Except.toOption] at h

theorem emitted_of_rule {r : Rule} (hr : s.rule? b.settings = some r) :
    b.emitted s = ((b.translation? s).map Translation.stages).getD [] := by
  cases s with
  | apply | search | notDeleted => rfl
  | _ => simp [Step.rule?] at hr

/-- A step that applies a rule leaves everything but the stages and the dictionary. -/
theorem next_of_rule {r : Rule} (hr : s.rule? b.settings = some r) :
    b.next s = { b with
      stages := b.stages ++ b.emitted s
      filters := b.filters.eraseAll (b.consumed s) } := by
  rw [emitted_of_rule b hr, consumed]
  cases ht : b.translation? s with
  | none =>
    rw [next_eq_self b hr ht]
    simp
  | some t =>
    rw [next_eq_absorb b ht]
    rfl

theorem consumed_eq_nil (hr : s.rule? b.settings = none) : b.consumed s = [] := by
  simp only [consumed, translation?, hr, Option.bind_none, Option.map_none, Option.getD_none]

theorem next_lookup (join : JoinRequest) (pipeline : Value) :
    b.next (.lookup join pipeline) =
      { b with stages := b.stages ++ b.emitted (.lookup join pipeline) } := by
  rw [next_eq, step_lookup, emitted]
  cases join.elements pipeline <;> simp [Except.map, Except.toOption]

theorem next_strictLookup (join : JoinRequest) (pipeline : Value) :
    b.next (.strictLookup join pipeline) =
      { b with stages := b.stages ++ b.emitted (.strictLookup join pipeline) } := by
  rw [next_eq, step_strictLookup, emitted]
  cases (join.elements pipeline).bind join.strict <;> simp [Except.map, Except.toOption]

theorem exists_next_setTimezone (v : Value) :
    ∃ name zone hzone, b.next (.setTimezone v) =
      { b with timezone := name, zone := zone, zone_eq := hzone } := by
  rw [next_eq, step_setTimezone]
  cases v.zoneName with
  | error e => exact ⟨b.timezone, b.zone, b.zone_eq, rfl⟩
  | ok name =>
    dsimp only [Except.bind]
    cases findZone name with
    | error e => exact ⟨b.timezone, b.zone, b.zone_eq, rfl⟩
    | ok z => exact ⟨name, z.1, z.2, rfl⟩

/-- All that a step does to the parts of a builder that stages are made from. -/
structure Effect (b : Builder) (s : Step) (after : Builder) : Prop where
  filters_eq : ¬ s.IsWrite → after.filters = b.filters.eraseAll (b.spent s)
  stages_eq : after.stages = b.stages ++ b.emitted s
  unmatched_eq : after.unmatched = b.unmatched ++ leftovers (b.swept s)
  settings_eq : after.settings = b.settings
  zone_eq : (∀ name, s ≠ .setTimezone name) → after.zone = b.zone

private theorem effect_of_rule {r : Rule} (hr : s.rule? b.settings = some r)
    (hswept : b.swept s = []) : b.Effect s (b.next s) := by
  rw [next_of_rule b hr]
  constructor <;> simp [spent, hswept, leftovers]

/-- A step that neither applies a rule nor builds leaves the dictionary alone. -/
private theorem effect_of_kept {after : Builder} (hr : s.rule? b.settings = none)
    (hswept : b.swept s = []) (hfilters : ¬ s.IsWrite → after.filters = b.filters)
    (hstages : after.stages = b.stages ++ b.emitted s) (hunmatched : after.unmatched = b.unmatched)
    (hsettings : after.settings = b.settings)
    (hzone : (∀ name, s ≠ .setTimezone name) → after.zone = b.zone) : b.Effect s after where
  filters_eq hs := by
    rw [spent, consumed_eq_nil b hr, hswept, List.map_nil, List.append_nil, Filters.eraseAll_nil]
    exact hfilters hs
  stages_eq := hstages
  unmatched_eq := by
    rw [hswept, hunmatched]
    exact (List.append_nil _).symm
  settings_eq := hsettings
  zone_eq := hzone

theorem next_effect (s : Step) : b.Effect s (b.next s) := by
  cases s with
  | apply | search | notDeleted => exact effect_of_rule b rfl rfl
  | lookup join pipeline =>
    rw [next_lookup]
    exact effect_of_kept b rfl rfl (fun _ => rfl) rfl rfl rfl fun _ => rfl
  | strictLookup join pipeline =>
    rw [next_strictLookup]
    exact effect_of_kept b rfl rfl (fun _ => rfl) rfl rfl rfl fun _ => rfl
  | setTimezone v =>
    obtain ⟨name, zone, hzone, hnext⟩ := b.exists_next_setTimezone v
    rw [hnext]
    refine effect_of_kept b rfl rfl (fun _ => rfl) ?_ rfl rfl fun h => absurd rfl (h v)
    exact (List.append_nil _).symm
  | put key v =>
    refine effect_of_kept b rfl rfl (fun hs => absurd trivial hs) ?_ rfl rfl fun _ => rfl
    exact (List.append_nil _).symm
  | copyQuery | inspect | fails =>
    refine effect_of_kept b rfl rfl (fun _ => rfl) ?_ rfl rfl fun _ => rfl
    exact (List.append_nil _).symm
  | build =>
    refine ⟨fun _ => ?_, rfl, rfl, rfl, fun _ => rfl⟩
    rw [spent, consumed_eq_nil b rfl, List.nil_append]
    exact (Filters.eraseAll_keys b.filters).symm

/-- What is seen of a step from outside are the stages that it appends. -/
theorem outcome_eq (s : Step) : b.outcome s = (b.step s).map fun _ => b.emitted s := by
  cases hs : b.step s with
  | error e => simp only [outcome, hs, Except.map]
  | ok after =>
    have hstages := (b.next_effect s).stages_eq
    rw [b.next_of_ok hs] at hstages
    simp only [outcome, hs, Except.map, hstages, List.drop_left]

theorem outcome_of_rule {r : Rule} (hr : s.rule? b.settings = some r) :
    b.outcome s = (r.translate (.ok b.zone) b.filters).map Translation.stages := by
  rw [outcome, step_eq_map b hr]
  cases r.translate (.ok b.zone) b.filters with
  | error e => rfl
  | ok t => simp [Except.map, absorb]

theorem mem_keys_next {key : String} (hs : ¬ s.IsWrite) :
    key ∈ (b.next s).filters.keys ↔ key ∈ b.filters.keys ∧ key ∉ b.spent s := by
  rw [(b.next_effect s).filters_eq hs, Filters.mem_keys_eraseAll]

theorem mem_entries_next {e : String × Value} (hs : ¬ s.IsWrite) :
    e ∈ (b.next s).filters.entries ↔ e ∈ b.filters.entries ∧ e.1 ∉ b.spent s := by
  rw [(b.next_effect s).filters_eq hs, Filters.mem_entries_eraseAll]

theorem notMem_keys_next {key : String} (hs : ¬ s.IsWrite) (h : key ∉ b.filters.keys) :
    key ∉ (b.next s).filters.keys := by
  rw [b.mem_keys_next hs]
  exact fun hkey => h hkey.1

/-- Only keys of the dictionary are removed from it. -/
theorem mem_keys_of_mem_spent {key : String} (h : key ∈ b.spent s) : key ∈ b.filters.keys := by
  rw [spent, List.mem_append] at h
  rcases h with h | h
  · cases ht : b.translation? s with
    | none => simp [consumed, ht] at h
    | some t =>
      have hk : key ∈ t.consumed := by simpa [consumed, ht] using h
      obtain ⟨r, _, htr⟩ := b.translation?_eq_some_iff.mp ht
      exact ((Rule.mem_consumed_iff htr).mp hk).2
  · cases s with
    | build => exact h
    | _ => simp [swept] at h

@[simp] theorem run_nil : b.run [] = b := rfl

@[simp] theorem run_cons (s : Step) (rest : List Step) :
    b.run (s :: rest) = (b.next s).run rest := rfl

theorem run_append (front back : List Step) : b.run (front ++ back) = (b.run front).run back :=
  List.foldl_append ..

theorem run_take_succ {steps : List Step} {n : Nat} (h : n < steps.length) :
    b.run (steps.take (n + 1)) = (b.run (steps.take n)).next steps[n] := by
  rw [List.take_succ_eq_append_getElem h, run_append]
  rfl

/-- A run appends what its steps append, one after the other. -/
theorem run_stages (steps : List Step) :
    (b.run steps).stages = b.stages ++ (b.history steps).flatMap fun p => p.1.emitted p.2 := by
  induction steps generalizing b with
  | nil => simp [history]
  | cons s rest ih =>
    rw [run_cons, ih, (b.next_effect s).stages_eq]
    simp [history]

end FilterPipeline.Builder
