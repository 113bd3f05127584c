import FilterPipeline.Host.Published
import FilterPipeline.Proofs.KeyGrammar
import FilterPipeline.Proofs.Run

/-!
What becomes of the keys of a dictionary over a whole run that ends in a build. Each key is
consumed by one rule, or swept into one equality, or listed as unmatched once, or dropped
because it was not set; no key meets two of these ends and none is forgotten.
-/

namespace FilterPipeline

/-- Whether a stage is an equality on the given field. -/
def Stage.isEqualityOn (key : String) : Stage → Bool
  | .filter (.fields [(.text field, .equals _)]) => field == key
  | _ => false

theorem Value.isPresent_iff (v : Value) : v.isPresent = true ↔ v ≠ .null ∧ v ≠ .text "" := by
  cases v <;> simp [isPresent]

namespace Builder

/-- Of what is swept only the entry of a key counts for that key. -/
theorem filter_sweep (key : String) (entries : List (String × Value)) :
    (sweep entries).filter (·.isEqualityOn key) = sweep (entries.filter (·.1 == key)) := by
  simp only [sweep, List.filter_map, List.filter_filter]
  congr 1
  exact List.filter_congr fun e _ => Bool.and_comm _ _

theorem count_leftovers (key : String) (entries : List (String × Value)) :
    (leftovers entries).count key = (leftovers (entries.filter (·.1 == key))).length := by
  simp only [leftovers, List.length_map, List.filter_filter, List.count_eq_length_filter,
    List.filter_map]
  exact congrArg List.length (List.filter_congr fun e _ => Bool.and_comm _ _)

section

variable [Host] {b : Builder} {s : Step} {key : String}

/-- The steps of a run at which rules consume a key. -/
def consumers (b : Builder) (steps : List Step) (key : String) : List (Builder × Step) :=
  (b.history steps).filter fun p => (p.1.consumed p.2).contains key

/-- The equalities on a key that the builds of a run append. -/
def equalities (b : Builder) (steps : List Step) (key : String) : List Stage :=
  ((b.history steps).flatMap fun p => sweep (p.1.swept p.2)).filter (·.isEqualityOn key)

/-- The balance of a run for one key: at how many steps it is consumed, which equalities
the builds make for it, and how often it is newly listed as unmatched. -/
structure Account (b : Builder) (steps : List Step) (key : String) (times : Nat)
    (stages : List Stage) (listed : Nat) : Prop where
  consumers_length : (b.consumers steps key).length = times
  equalities_eq : b.equalities steps key = stages
  count_unmatched : (b.run steps).unmatched.count key = b.unmatched.count key + listed

/-- The ways in which a key can end. -/
inductive Fate where
  | consumed
  | matched
  | unmatched
  | dropped
deriving DecidableEq, Repr

/-- The end that an entry of the dictionary meets in a run. -/
def HasFate (b : Builder) (steps : List Step) (key : String) (v : Value) : Fate → Prop
  | .consumed => b.Account steps key 1 [] 0
  | .matched => (v ≠ .null ∧ v ≠ .text "") ∧ ('-' ∉ key.toList ∧ key ∉ reservedKeys) ∧
      b.Account steps key 0 [.equality key v] 0
  | .unmatched => (v ≠ .null ∧ v ≠ .text "") ∧ ('-' ∈ key.toList ∨ key ∈ reservedKeys) ∧
      b.Account steps key 0 [] 1
  | .dropped => (v = .null ∨ v = .text "") ∧ b.Account steps key 0 [] 0

theorem history_append (front back : List Step) :
    b.history (front ++ back) = b.history front ++ (b.run front).history back := by
  induction front generalizing b with
  | nil => rfl
  | cons s rest ih =>
    rw [List.cons_append, history, ih]
    rfl

theorem Account.append {front back : List Step} {m n : Nat} {st su : List Stage} {k l : Nat}
    (hfront : b.Account front key m st k) (hback : (b.run front).Account back key n su l) :
    b.Account (front ++ back) key (m + n) (st ++ su) (k + l) where
  consumers_length := by
    rw [consumers, history_append, List.filter_append, List.length_append]
    exact congrArg₂ _ hfront.consumers_length hback.consumers_length
  equalities_eq := by
    rw [equalities, history_append, List.flatMap_append, List.filter_append]
    exact congrArg₂ _ hfront.equalities_eq hback.equalities_eq
  count_unmatched := by
    rw [run_append, hback.count_unmatched, hfront.count_unmatched]
    omega

/-- The balance of a single step. -/
theorem account_step (b : Builder) (s : Step) (key : String) :
    b.Account [s] key (if key ∈ b.consumed s then 1 else 0)
      (sweep ((b.swept s).filter (·.1 == key)))
      (leftovers ((b.swept s).filter (·.1 == key))).length where
  consumers_length := by
    by_cases h : key ∈ b.consumed s <;> simp [consumers, history, h]
  equalities_eq := by
    simp only [equalities, history, List.flatMap_cons, List.flatMap_nil, List.append_nil]
    exact filter_sweep ..
  count_unmatched := by
    rw [run_cons, run_nil, (b.next_effect s).unmatched_eq, List.count_append, count_leftovers]

/-- A step that leaves a key alone does not count for it. -/
theorem account_spared (h : key ∉ b.spent s) : b.Account [s] key 0 [] 0 := by
  rw [spent, List.mem_append, not_or] at h
  have hswept : (b.swept s).filter (·.1 == key) = [] := by
    rw [List.filter_eq_nil_iff]
    intro e he hkey
    exact h.2 (List.mem_map.mpr ⟨e, he, beq_iff_eq.mp hkey⟩)
  have haccount := b.account_step s key
  rw [if_neg h.1, hswept] at haccount
  exact haccount

/-- A build applies no rule. -/
theorem swept_eq_nil_of_consumed (h : key ∈ b.consumed s) : b.swept s = [] := by
  cases s with
  | build =>
    have hnil : b.consumed .build = [] := consumed_eq_nil b rfl
    rw [hnil] at h
    exact absurd h List.not_mem_nil
  | _ => rfl

theorem account_consumed (h : key ∈ b.consumed s) : b.Account [s] key 1 [] 0 := by
  have haccount := b.account_step s key
  rw [if_pos h, swept_eq_nil_of_consumed h] at haccount
  exact haccount

theorem account_swept {v : Value} (h : (key, v) ∈ b.swept s) :
    b.Account [s] key 0 (sweep [(key, v)]) (leftovers [(key, v)]).length := by
  have hconsumed : key ∉ b.consumed s := by
    intro hkey
    rw [swept_eq_nil_of_consumed hkey] at h
    simp at h
  have hentry : (b.swept s).filter (·.1 == key) = [(key, v)] := by
    cases s with
    | build => exact Filters.filter_key_of_mem h
    | _ => simp [swept] at h
  have haccount := b.account_step s key
  rw [if_neg hconsumed, hentry] at haccount
  exact haccount

/-- A key that is not there counts at no step. -/
theorem account_absent {steps : List Step} (hsteps : ∀ s ∈ steps, ¬ s.IsWrite)
    (h : key ∉ b.filters.keys) : b.Account steps key 0 [] 0 := by
  induction steps generalizing b with
  | nil => exact ⟨rfl, rfl, rfl⟩
  | cons s rest ih =>
    rw [List.forall_mem_cons] at hsteps
    have hspent : key ∉ b.spent s := fun hkey => h (b.mem_keys_of_mem_spent hkey)
    exact (account_spared hspent).append (ih hsteps.2 (b.notMem_keys_next hsteps.1 h))

/-- Up to any step an entry is still there and counts nowhere, or it was consumed once, or
it was swept once. -/
theorem account_of_mem {steps : List Step} {v : Value} (hsteps : ∀ s ∈ steps, ¬ s.IsWrite)
    (h : (key, v) ∈ b.filters.entries) :
    ((key, v) ∈ (b.run steps).filters.entries ∧ b.Account steps key 0 [] 0) ∨
      b.Account steps key 1 [] 0 ∨
      b.Account steps key 0 (sweep [(key, v)]) (leftovers [(key, v)]).length := by
  induction steps generalizing b with
  | nil => exact Or.inl ⟨h, rfl, rfl, rfl⟩
  | cons s rest ih =>
    rw [List.forall_mem_cons] at hsteps
    by_cases hspent : key ∈ b.spent s
    · -- From here on the key is gone.
      have hnext : key ∉ (b.next s).filters.keys := by
        rw [b.mem_keys_next hsteps.1]
        exact fun hkey => hkey.2 hspent
      have hrest := account_absent hsteps.2 hnext
      rw [spent, List.mem_append] at hspent
      rcases hspent with hconsumed | hswept
      · exact Or.inr (Or.inl ((account_consumed hconsumed).append hrest))
      · have hentry : (key, v) ∈ b.swept s := by
          cases s with
          | build => exact h
          | _ => simp [swept] at hswept
        have haccount := (account_swept hentry).append hrest
        rw [List.append_nil] at haccount
        exact Or.inr (Or.inr haccount)
    · have hnext : (key, v) ∈ (b.next s).filters.entries :=
        (b.mem_entries_next hsteps.1).mpr ⟨h, hspent⟩
      have hspared := account_spared hspent
      rcases ih hsteps.2 hnext with ⟨hmem, hrest⟩ | hrest | hrest
      · exact Or.inl ⟨hmem, hspared.append hrest⟩
      · exact Or.inr (Or.inl (hspared.append hrest))
      · have haccount := hspared.append hrest
        rw [Nat.zero_add, List.nil_append, Nat.zero_add] at haccount
        exact Or.inr (Or.inr haccount)

theorem entries_run_build (steps : List Step) :
    (b.run (steps ++ [.build])).filters = .empty := by
  rw [run_append]
  rfl

theorem Account.unique {steps : List Step} {m n : Nat} {st su : List Stage} {k l : Nat}
    (h : b.Account steps key m st k) (h' : b.Account steps key n su l) :
    m = n ∧ st = su ∧ k = l := by
  refine ⟨h.consumers_length.symm.trans h'.consumers_length,
    h.equalities_eq.symm.trans h'.equalities_eq, ?_⟩
  have hcount := h.count_unmatched.symm.trans h'.count_unmatched
  omega

theorem HasFate.exists_account {steps : List Step} {v : Value} {fate : Fate}
    (h : b.HasFate steps key v fate) :
    ∃ stages, b.Account steps key (if fate = .consumed then 1 else 0) stages
      (if fate = .unmatched then 1 else 0) ∧ (stages = [] ↔ fate ≠ .matched) := by
  cases fate with
  | consumed => exact ⟨[], h, by simp⟩
  | matched => exact ⟨_, h.2.2, by simp⟩
  | unmatched => exact ⟨[], h.2.2, by simp⟩
  | dropped => exact ⟨[], h.2, by simp⟩

/-- The four ends differ in their balances, so no entry meets two of them. -/
theorem HasFate.unique {steps : List Step} {v : Value} {fate fate' : Fate}
    (h : b.HasFate steps key v fate) (h' : b.HasFate steps key v fate') : fate = fate' := by
  obtain ⟨stages, haccount, hstages⟩ := h.exists_account
  obtain ⟨stages', haccount', hstages'⟩ := h'.exists_account
  obtain ⟨htimes, rfl, hlisted⟩ := haccount.unique haccount'
  rw [hstages] at hstages'
  cases fate <;> cases fate' <;> simp_all

/-- What the sweep makes of an entry depends on its value and on its key. -/
theorem hasFate_of_swept {steps : List Step} {v : Value}
    (h : b.Account steps key 0 (sweep [(key, v)]) (leftovers [(key, v)]).length) :
    ∃ fate, b.HasFate steps key v fate := by
  by_cases hset : v.isPresent = true
  · by_cases hkey : isSweepable key = true
    · refine ⟨.matched, v.isPresent_iff.mp hset, (isSweepable_iff key).mp hkey, ?_⟩
      simpa [sweep, leftovers, hset, hkey] using h
    · refine ⟨.unmatched, v.isPresent_iff.mp hset, ?_, ?_⟩
      · rw [isSweepable_iff] at hkey
        tauto
      · simpa [sweep, leftovers, hset, hkey] using h
  · refine ⟨.dropped, ?_, ?_⟩
    · rw [Value.isPresent_iff] at hset
      tauto
    · simpa [sweep, leftovers, hset] using h

/-- Every key of the dictionary meets exactly one end in a run that does not write and ends
in a build. After it nothing is left in the dictionary, and the stages are those that the
steps have appended, in their order. -/
theorem existsUnique_fate {filters : Filters} {timezone : String} {settings : Settings}
    (hb : create filters timezone settings = .ok b) {steps : List Step}
    (hsteps : ∀ s ∈ steps, ¬ s.IsWrite) :
    (∀ e ∈ filters.entries, ∃! fate, b.HasFate (steps ++ [.build]) e.1 e.2 fate) ∧
      (∀ key, key ∉ filters.keys → b.Account (steps ++ [.build]) key 0 [] 0) ∧
      (b.run (steps ++ [.build])).filters = .empty ∧
      (b.run (steps ++ [.build])).stages =
        (b.history (steps ++ [.build])).flatMap fun p => p.1.emitted p.2 := by
  obtain ⟨hfilters, hstages⟩ := create_parts hb
  have hall : ∀ s ∈ steps ++ [.build], ¬ s.IsWrite := by
    intro s hs
    rcases List.mem_append.mp hs with hs | hs
    · exact hsteps s hs
    · rw [List.mem_singleton.mp hs]
      exact id
  refine ⟨?_, ?_, entries_run_build steps, ?_⟩
  · intro e he
    rw [← hfilters] at he
    obtain ⟨fate, hfate⟩ : ∃ fate, b.HasFate (steps ++ [.build]) e.1 e.2 fate := by
      rcases account_of_mem hall he with ⟨hleft, _⟩ | hconsumed | hswept
      · rw [entries_run_build] at hleft
        exact absurd hleft List.not_mem_nil
      · exact ⟨.consumed, hconsumed⟩
      · exact hasFate_of_swept hswept
    exact ⟨fate, hfate, fun fate' hfate' => hfate'.unique hfate⟩
  · intro key hkey
    rw [← hfilters] at hkey
    exact account_absent hall hkey
  · rw [run_stages, hstages, List.nil_append]

end

/-- A key for a rule to read, one to sweep, one that nothing reads, and one that is not set. -/
def mixedKeys : Filters :=
  .ofList [("age-gt", .int 3), ("name", .text "a"), ("no-such", .int 1), ("note", .null)]

theorem existsUnique_fate_mixedKeys :
    (∃! fate, (usual mixedKeys).HasFate
      ([.apply (.comparison (.text "age") .greater)] ++ [.build]) "age-gt" (.int 3) fate) ∧
    (∃! fate, (usual mixedKeys).HasFate
      ([.apply (.comparison (.text "age") .greater)] ++ [.build]) "name" (.text "a") fate) := by
  have hsteps : ∀ s ∈ [Step.apply (.comparison (.text "age") .greater)], ¬ s.IsWrite := by
    simp [Step.IsWrite]
  have hfates := (existsUnique_fate (create_usual mixedKeys) hsteps).1
  exact ⟨hfates ("age-gt", .int 3) (List.mem_cons_self ..),
    hfates ("name", .text "a") (List.mem_cons_of_mem _ (List.mem_cons_self ..))⟩

end Builder

end FilterPipeline
