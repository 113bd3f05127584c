import FilterPipeline.Host.Published
import FilterPipeline.Proofs.Run

/-!
Two runs of the same steps from dictionaries that differ in the value of one key. Whether a
key is consumed never depends on its value, except for the flag of date ranges. Both runs
therefore lose the same keys at every step, and once the key in question is gone nothing is
left that tells the runs apart.
-/

namespace FilterPipeline.Builder

open Filters

section

variable [Host] {b c b' c' : Builder} {s : Step} {key : String}

/-- Two builders that differ at most in the value of one key, and in what they have
collected so far. -/
structure Alike (key : String) (b c : Builder) : Prop where
  settings_eq : b.settings = c.settings
  zone_eq : b.zone = c.zone
  keys_eq : b.filters.keys = c.filters.keys
  get?_eq : ∀ k, k ≠ key → b.filters.get? k = c.filters.get? k

theorem rule_of_step_eq_ok {r : Rule} (hr : s.rule? b.settings = some r)
    (hb : b.step s = .ok b') : ∃ t, b.translation? s = some t ∧
      t.consumed = (r.reads b.filters).filter b.filters.contains := by
  rw [step_eq_map b hr] at hb
  obtain ⟨t, ht, -⟩ := exists_of_map_eq_ok hb
  exact ⟨t, b.translation?_eq_some_iff.mpr ⟨r, hr, ht⟩, Rule.consumed_of_translate ht⟩

theorem spent_of_rule {r : Rule} (hr : s.rule? b.settings = some r) (hb : b.step s = .ok b') :
    b.spent s = (r.reads b.filters).filter b.filters.contains := by
  obtain ⟨t, ht, hconsumed⟩ := rule_of_step_eq_ok hr hb
  have hswept : b.swept s = [] := by
    cases s with
    | build => simp [Step.rule?] at hr
    | _ => rfl
  simp [spent, consumed, ht, hswept, hconsumed]

/-- The zone that is set depends on its name alone. -/
theorem zone_eq_of_setTimezone {v : Value} (hb : b.step (.setTimezone v) = .ok b')
    (hc : c.step (.setTimezone v) = .ok c') : b'.zone = c'.zone := by
  rw [step_setTimezone] at hb hc
  obtain ⟨name, hname, hzone⟩ := exists_of_bind_eq_ok hb
  obtain ⟨z, hz, rfl⟩ := exists_of_map_eq_ok hzone
  rw [hname, Except.bind, hz] at hc
  rw [← Except.ok.inj hc]

namespace Alike

/-- Where the key is gone the dictionaries are the same. -/
theorem filters_eq (h : Alike key b c) (hkey : key ∉ b.filters.keys) : b.filters = c.filters := by
  apply ext_get? h.keys_eq
  intro k hk
  apply h.get?_eq
  rintro rfl
  exact hkey hk

theorem contains_eq (h : Alike key b c) : b.filters.contains = c.filters.contains := by
  funext k
  rw [contains, contains, h.keys_eq]

theorem reads_eq (h : Alike key b c) (hgate : key ≠ dateGate) (r : Rule) :
    r.reads c.filters = r.reads b.filters := by
  apply Rule.reads_eq_of_gate
  rw [value, value, h.get?_eq dateGate hgate.symm]

/-- Both runs lose the same keys. -/
theorem spent_eq (h : Alike key b c) (hgate : key ≠ dateGate) (hb : b.step s = .ok b')
    (hc : c.step s = .ok c') : b.spent s = c.spent s := by
  cases hr : s.rule? b.settings with
  | some r =>
    have hr' : s.rule? c.settings = some r := h.settings_eq ▸ hr
    rw [spent_of_rule hr hb, spent_of_rule hr' hc, h.reads_eq hgate, h.contains_eq]
  | none =>
    have hr' : s.rule? c.settings = none := h.settings_eq ▸ hr
    have hswept : (b.swept s).map Prod.fst = (c.swept s).map Prod.fst := by
      cases s with
      | build => exact h.keys_eq
      | _ => rfl
    rw [spent, spent, consumed_eq_nil b hr, consumed_eq_nil c hr', hswept]

/-- A step that does not use the key up does the same in both runs. -/
theorem outcome_eq (h : Alike key b c) (hb : b.step s = .ok b') (hc : c.step s = .ok c')
    (hspared : key ∉ b.spent s) : b.outcome s = c.outcome s := by
  cases hr : s.rule? b.settings with
  | some r =>
    have hr' : s.rule? c.settings = some r := h.settings_eq ▸ hr
    rw [spent_of_rule hr hb, List.mem_filter, contains_iff] at hspared
    have hagree : AgreeOn (r.reads b.filters) b.filters c.filters := by
      intro k hk
      by_cases hkey : k = key
      · -- The key is looked at and there is nothing under it.
        subst hkey
        rw [h.filters_eq fun hmem => hspared ⟨hk, hmem⟩]
      · exact h.get?_eq k hkey
    rw [outcome_of_rule b hr, outcome_of_rule c hr', ← h.zone_eq,
      Rule.translate_eq_of_agreeOn hagree]
  | none =>
    have hemitted : b.emitted s = c.emitted s := by
      cases s with
      | build =>
        have hkey : key ∉ b.filters.keys := by
          intro hmem
          exact hspared (List.mem_append_right _ hmem)
        simp only [emitted, h.filters_eq hkey]
      | lookup => simp only [emitted, h.settings_eq]
      | strictLookup => rfl
      | apply | search | notDeleted => simp [Step.rule?] at hr
      | setTimezone | copyQuery | put | inspect | fails => rfl
    rw [Builder.outcome_eq, Builder.outcome_eq, hb, hc, hemitted]
    rfl

theorem next (h : Alike key b c) (hgate : key ≠ dateGate) (hs : ¬ s.IsWrite)
    (hb : b.step s = .ok b') (hc : c.step s = .ok c') : Alike key (b.next s) (c.next s) := by
  have hspent := h.spent_eq hgate hb hc
  have hfilters := (b.next_effect s).filters_eq hs
  have hfilters' := (c.next_effect s).filters_eq hs
  constructor
  · rw [(b.next_effect s).settings_eq, (c.next_effect s).settings_eq, h.settings_eq]
  · by_cases hzone : ∀ name, s ≠ .setTimezone name
    · rw [(b.next_effect s).zone_eq hzone, (c.next_effect s).zone_eq hzone, h.zone_eq]
    · push Not at hzone
      obtain ⟨v, rfl⟩ := hzone
      rw [b.next_of_ok hb, c.next_of_ok hc]
      exact zone_eq_of_setTimezone hb hc
  · rw [hfilters, hfilters', keys_eraseAll, keys_eraseAll, h.keys_eq, hspent]
  · intro k hk
    rw [hfilters, hfilters', get?_eraseAll, get?_eraseAll, h.get?_eq k hk, hspent]

end Alike

theorem exists_step_of_runAll {steps : List Step} (hb : b.runAll steps = .ok b') {i : Nat}
    (hi : i < steps.length) : ∃ after, (b.run (steps.take i)).step steps[i] = .ok after := by
  induction steps generalizing b i with
  | nil => simp at hi
  | cons s rest ih =>
    rw [runAll, List.foldlM_cons] at hb
    obtain ⟨after, hs, hrest⟩ := exists_of_bind_eq_ok hb
    have hnext : b.next s = after := b.next_of_ok hs
    cases i with
    | zero => exact ⟨after, hs⟩
    | succ i =>
      rw [List.take_succ_cons, run_cons, hnext]
      exact ih hrest (Nat.lt_of_succ_lt_succ hi)

theorem Alike.run_take (h : Alike key b c) (hgate : key ≠ dateGate) {steps : List Step}
    (hsteps : ∀ s ∈ steps, ¬ s.IsWrite) (hb : b.runAll steps = .ok b')
    (hc : c.runAll steps = .ok c') (n : Nat) :
    Alike key (b.run (steps.take n)) (c.run (steps.take n)) := by
  induction n with
  | zero => exact h
  | succ n ih =>
    by_cases hn : n < steps.length
    · obtain ⟨after, hafter⟩ := exists_step_of_runAll hb hn
      obtain ⟨after', hafter'⟩ := exists_step_of_runAll hc hn
      rw [run_take_succ _ hn, run_take_succ _ hn]
      exact ih.next hgate (hsteps _ (List.getElem_mem hn)) hafter hafter'
    · rw [List.take_of_length_le (by omega)] at ih ⊢
      exact ih

/-- A key that is used up does not come back. -/
theorem notMem_keys_of_spent {steps : List Step} (hsteps : ∀ s ∈ steps, ¬ s.IsWrite) {i n : Nat}
    (hi : i < steps.length) (hin : i < n)
    (hspent : key ∈ (b.run (steps.take i)).spent steps[i]) :
    key ∉ (b.run (steps.take n)).filters.keys := by
  induction hin with
  | refl =>
    rw [run_take_succ _ hi, mem_keys_next _ (hsteps _ (List.getElem_mem hi))]
    exact fun hkey => hkey.2 hspent
  | @step n hin ih =>
    by_cases hn : n < steps.length
    · rw [run_take_succ _ hn]
      exact notMem_keys_next _ (hsteps _ (List.getElem_mem hn)) ih
    · rw [List.take_of_length_le (by omega)] at ih ⊢
      exact ih

/-- A key is used up at one step at most. -/
theorem eq_of_spent {steps : List Step} (hsteps : ∀ s ∈ steps, ¬ s.IsWrite) {i j : Nat}
    (hi : i < steps.length) (hj : j < steps.length)
    (hspent : key ∈ (b.run (steps.take i)).spent steps[i])
    (hspent' : key ∈ (b.run (steps.take j)).spent steps[j]) : i = j := by
  rcases Nat.lt_trichotomy i j with hij | rfl | hij
  · have hgone := notMem_keys_of_spent hsteps hi hij hspent
    exact absurd (mem_keys_of_mem_spent _ hspent') hgone
  · rfl
  · have hgone := notMem_keys_of_spent hsteps hj hij hspent'
    exact absurd (mem_keys_of_mem_spent _ hspent) hgone

theorem alike_of_create {f g : Filters} {timezone : String} {settings : Settings}
    (hkeys : f.keys = g.keys) (hget : ∀ k, k ≠ key → f.get? k = g.get? k)
    (hb : create f timezone settings = .ok b) (hc : create g timezone settings = .ok c) :
    Alike key b c := by
  rw [create_eq_map _ rfl] at hb hc
  obtain ⟨z, hz, rfl⟩ := exists_of_map_eq_ok hb
  rw [hz] at hc
  rw [← Except.ok.inj hc]
  exact ⟨rfl, rfl, hkeys, hget⟩

/-- No value is compiled twice. Let two dictionaries have the same keys in the same order and
differ in the value of one key at most, which is not the flag of date ranges, and let no step
of either run write or fail. Then the stages differ at one step at most, the keys are the same
after every step, and after the step that uses the key up the dictionaries are. -/
theorem runs_differ_once {f g : Filters} {timezone : String} {settings : Settings}
    (hgate : key ≠ dateGate) (hkeys : f.keys = g.keys)
    (hget : ∀ k, k ≠ key → f.get? k = g.get? k)
    (hb : create f timezone settings = .ok b) (hc : create g timezone settings = .ok c)
    {steps : List Step} (hsteps : ∀ s ∈ steps, ¬ s.IsWrite)
    (hbrun : b.runAll steps = .ok b') (hcrun : c.runAll steps = .ok c') :
    (∃ i, ∀ j (hj : j < steps.length), j ≠ i →
      (b.run (steps.take j)).outcome steps[j] = (c.run (steps.take j)).outcome steps[j]) ∧
    (∀ n, (b.run (steps.take n)).filters.keys = (c.run (steps.take n)).filters.keys) ∧
    (∀ i (hi : i < steps.length), key ∈ (b.run (steps.take i)).spent steps[i] →
      ∀ n, i < n → (b.run (steps.take n)).filters = (c.run (steps.take n)).filters) := by
  have halike := (alike_of_create hkeys hget hb hc).run_take hgate hsteps hbrun hcrun
  have hsame : ∀ j (hj : j < steps.length),
      key ∉ (b.run (steps.take j)).spent steps[j] →
      (b.run (steps.take j)).outcome steps[j] = (c.run (steps.take j)).outcome steps[j] := by
    intro j hj hspared
    obtain ⟨after, hafter⟩ := exists_step_of_runAll hbrun hj
    obtain ⟨after', hafter'⟩ := exists_step_of_runAll hcrun hj
    exact (halike j).outcome_eq hafter hafter' hspared
  refine ⟨?_, fun n => (halike n).keys_eq, ?_⟩
  · by_cases hexists : ∃ i, ∃ hi : i < steps.length, key ∈ (b.run (steps.take i)).spent steps[i]
    · obtain ⟨i, hi, hspent⟩ := hexists
      refine ⟨i, fun j hj hji => hsame j hj ?_⟩
      intro hspent'
      exact hji (eq_of_spent hsteps hj hi hspent' hspent)
    · push Not at hexists
      exact ⟨0, fun j hj _ => hsame j hj (hexists j hj)⟩
  · intro i hi hspent n hin
    exact (halike n).filters_eq (notMem_keys_of_spent hsteps hi hin hspent)

end

/-- A dictionary with one bound and one name. -/
def overAge (age : Int) : Filters := .ofList [("age-gt", .int age), ("name", .text "a")]

theorem overAge_get?_eq (m n : Int) (k : String) (hk : k ≠ "age-gt") :
    (overAge m).get? k = (overAge n).get? k := by
  apply Option.ext
  intro v
  rw [get?_eq_some_iff, get?_eq_some_iff]
  change (k, v) ∈ [("age-gt", Value.int m), ("name", .text "a")] ↔
    (k, v) ∈ [("age-gt", Value.int n), ("name", .text "a")]
  simp [hk]

/-- A step that reads the bound, and a build. -/
def ageSteps : List Step := [.apply (.comparison (.text "age") .greater), .build]

/-- Two ages show in the stages once, and nothing is left of the difference then. -/
theorem overAge_differ_once :
    (∃ i, ∀ j (hj : j < ageSteps.length), j ≠ i →
      ((usual (overAge 3)).run (ageSteps.take j)).outcome ageSteps[j] =
        ((usual (overAge 4)).run (ageSteps.take j)).outcome ageSteps[j]) ∧
    ((usual (overAge 3)).run ageSteps).filters = ((usual (overAge 4)).run ageSteps).filters := by
  have hgate : "age-gt" ≠ dateGate := by decide
  have hkeys : (overAge 3).keys = (overAge 4).keys := rfl
  have hsteps : ∀ s ∈ ageSteps, ¬ s.IsWrite := by simp [ageSteps, Step.IsWrite]
  have hspent : "age-gt" ∈ ((usual (overAge 3)).run (ageSteps.take 0)).spent ageSteps[0] := by
    decide
  obtain ⟨honce, _, hequal⟩ := runs_differ_once hgate hkeys (overAge_get?_eq 3 4)
    (create_usual _) (create_usual _) hsteps rfl rfl
  exact ⟨honce, hequal 0 (by decide) hspent ageSteps.length (by decide)⟩

end FilterPipeline.Builder
