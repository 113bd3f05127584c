import FilterPipeline.Host.Published
import FilterPipeline.Proofs.Run

/-!
Steps that may read no key in common do not notice each other. What a rule removes from the
dictionary lies outside of what the other one looks at, and the removals themselves commute,
so the order of the two shows in the order of their stages alone.
-/

namespace FilterPipeline.Builder

section

variable [Host] {b : Builder} {s t : Step} {q r : Rule}

/-- Two steps come to the same in either order, except that the stages that they append
change places. -/
structure Commutes (b : Builder) (s t : Step) : Prop where
  filters_eq : (b.run [s, t]).filters = (b.run [t, s]).filters
  timezone_eq : (b.run [s, t]).timezone = (b.run [t, s]).timezone
  query_eq : (b.run [s, t]).query = (b.run [t, s]).query
  unmatched_eq : (b.run [s, t]).unmatched = (b.run [t, s]).unmatched
  outcome_first : (b.next t).outcome s = b.outcome s
  outcome_second : (b.next s).outcome t = b.outcome t
  stages_eq : (b.run [s, t]).stages = b.stages ++ (b.emitted s ++ b.emitted t)
  stages_swapped : (b.run [t, s]).stages = b.stages ++ (b.emitted t ++ b.emitted s)

theorem consumed_subset_keys (hs : s.rule? b.settings = some q) {key : String}
    (h : key ∈ b.consumed s) : key ∈ q.keys := by
  cases ht : b.translation? s with
  | none => simp [consumed, ht] at h
  | some u =>
    have hk : key ∈ u.consumed := by simpa [consumed, ht] using h
    obtain ⟨q', hq', hu⟩ := b.translation?_eq_some_iff.mp ht
    rw [hs, Option.some.injEq] at hq'
    subst hq'
    exact Rule.mem_keys_of_mem_reads ((Rule.mem_consumed_iff hu).mp hk).1

/-- A rule makes the same of the dictionary before and after a step that may read none of
its keys. -/
theorem translate_next (hs : s.rule? b.settings = some q) (hdisj : q.keys.Disjoint r.keys) :
    r.translate (.ok (b.next s).zone) (b.next s).filters =
      r.translate (.ok b.zone) b.filters := by
  rw [next_of_rule b hs]
  apply Rule.translate_eraseAll
  intro key hr hconsumed
  exact hdisj (consumed_subset_keys hs hconsumed) hr

theorem rule?_next (s : Step) : t.rule? (b.next s).settings = t.rule? b.settings := by
  rw [(b.next_effect s).settings_eq]

theorem translation?_next (hs : s.rule? b.settings = some q) (ht : t.rule? b.settings = some r)
    (hdisj : q.keys.Disjoint r.keys) : (b.next s).translation? t = b.translation? t := by
  have hnext := (rule?_next s).trans ht
  rw [translation?_eq _ hnext, translation?_eq _ ht, translate_next hs hdisj]

/-- The second of two such steps does what it would have done as the first. -/
theorem run_pair (hs : s.rule? b.settings = some q) (ht : t.rule? b.settings = some r)
    (hdisj : q.keys.Disjoint r.keys) :
    b.run [s, t] = { b with
      stages := b.stages ++ (b.emitted s ++ b.emitted t)
      filters := (b.filters.eraseAll (b.consumed s)).eraseAll (b.consumed t) } := by
  have hnext := (rule?_next s).trans ht
  have htranslation := translation?_next hs ht hdisj
  have hemitted : (b.next s).emitted t = b.emitted t := by
    rw [emitted_of_rule _ hnext, emitted_of_rule _ ht, htranslation]
  have hconsumed : (b.next s).consumed t = b.consumed t := by
    rw [consumed, consumed, htranslation]
  rw [run_cons, run_cons, run_nil, next_of_rule _ hnext, hemitted, hconsumed, next_of_rule _ hs,
    List.append_assoc]

theorem outcome_next (hs : s.rule? b.settings = some q) (ht : t.rule? b.settings = some r)
    (hdisj : q.keys.Disjoint r.keys) : (b.next s).outcome t = b.outcome t := by
  have hnext := (rule?_next s).trans ht
  rw [outcome_of_rule _ hnext, outcome_of_rule _ ht, translate_next hs hdisj]

/-- Steps whose rules may read no key in common commute, also where they fail. -/
theorem commutes_of_disjoint (hs : s.rule? b.settings = some q)
    (ht : t.rule? b.settings = some r) (hdisj : q.keys.Disjoint r.keys) : b.Commutes s t := by
  have hfirst := run_pair hs ht hdisj
  have hsecond := run_pair ht hs (List.disjoint_symm hdisj)
  constructor
  · rw [hfirst, hsecond]
    exact b.filters.eraseAll_comm _ _
  · rw [hfirst, hsecond]
  · rw [hfirst, hsecond]
  · rw [hfirst, hsecond]
  · exact outcome_next ht hs (List.disjoint_symm hdisj)
  · exact outcome_next hs ht hdisj
  · rw [hfirst]
  · rw [hsecond]

end

/-- The days and the times of one field are asked for under different keys. -/
theorem commutes_days_times :
    (usual (.ofList [("x-from", .text "2024-01-31"), ("x-time-from", .text "08:00")])).Commutes
      (.apply (.dayRange (.text "x"))) (.apply (.timeRange (.text "x") (.text "x"))) :=
  commutes_of_disjoint rfl rfl (List.disjoint_left.mpr (by decide))

/-- A field may be named so that its days are asked for under the key of another one's times. -/
example :
    ¬ (Rule.dayRange (.text "x-time")).keys.Disjoint
      (Rule.timeRange (.text "x") (.text "x")).keys := by
  rw [List.disjoint_left]
  decide

end FilterPipeline.Builder
