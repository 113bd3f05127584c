import FilterPipeline.Proofs.KeyFate

/-!
Building takes the entries out of the dictionary one after the other and settles each of them by
itself. What is set under a bare key becomes an equality, the other keys that are set are listed,
and what is not set is dropped. As nothing is left then, building again changes nothing. A key
that was made of a field and an operator has a dash, so that it is never taken for a bare one.
-/

namespace FilterPipeline

namespace Rule

theorem dash_mem_operatorKey (field : Value) {op : Operator} (h : op.suffix ≠ "") :
    '-' ∈ (operatorKey field op).toList := by
  unfold operatorKey Key.format
  split
  · exact absurd rfl h
  · simp

end Rule

namespace Builder

/-- How some entries are settled in their order: which of them become equalities, and of which the
keys are listed. -/
inductive Settles : List (String × Value) → List (String × Value) → List String → Prop where
  | nil : Settles [] [] []
  | equality {key : String} {v : Value} {rest equalities : List (String × Value)}
      {listed : List String} (hset : v ≠ .null ∧ v ≠ .text "")
      (hkey : '-' ∉ key.toList ∧ key ∉ reservedKeys) (hrest : Settles rest equalities listed) :
      Settles ((key, v) :: rest) ((key, v) :: equalities) listed
  | listed {key : String} {v : Value} {rest equalities : List (String × Value)}
      {listed : List String} (hset : v ≠ .null ∧ v ≠ .text "")
      (hkey : '-' ∈ key.toList ∨ key ∈ reservedKeys) (hrest : Settles rest equalities listed) :
      Settles ((key, v) :: rest) equalities (key :: listed)
  | dropped {key : String} {v : Value} {rest equalities : List (String × Value)}
      {listed : List String} (hunset : v = .null ∨ v = .text "")
      (hrest : Settles rest equalities listed) : Settles ((key, v) :: rest) equalities listed

variable {entries entries' rest equalities equalities' : List (String × Value)}
  {listed listed' : List String}

/-- The entries that the sweep makes equalities of. -/
def matched (entries : List (String × Value)) : List (String × Value) :=
  entries.filter fun e => e.2.isPresent && isSweepable e.1

theorem sweep_eq (entries : List (String × Value)) :
    sweep entries = (matched entries).map fun e => .equality e.1 e.2 := rfl

theorem sweep_append (front back : List (String × Value)) :
    sweep (front ++ back) = sweep front ++ sweep back := by
  simp [sweep]

theorem leftovers_append (front back : List (String × Value)) :
    leftovers (front ++ back) = leftovers front ++ leftovers back := by
  simp [leftovers]

theorem settles_matched (entries : List (String × Value)) :
    Settles entries (matched entries) (leftovers entries) := by
  induction entries with
  | nil => exact .nil
  | cons e rest ih =>
    obtain ⟨key, v⟩ := e
    by_cases hset : v.isPresent = true
    · by_cases hkey : isSweepable key = true
      · have hsettles := Settles.equality (v.isPresent_iff.mp hset)
          ((isSweepable_iff key).mp hkey) ih
        simpa [matched, leftovers, hset, hkey] using hsettles
      · have hnotBare : '-' ∈ key.toList ∨ key ∈ reservedKeys := by
          rw [isSweepable_iff] at hkey
          tauto
        have hsettles := Settles.listed (v.isPresent_iff.mp hset) hnotBare ih
        simpa [matched, leftovers, hset, hkey] using hsettles
    · have hunset : v = .null ∨ v = .text "" := by
        rw [Value.isPresent_iff] at hset
        tauto
      have hsettles : Settles ((key, v) :: rest) _ _ := .dropped hunset ih
      simpa [matched, leftovers, hset] using hsettles

namespace Settles

/-- Entries are settled in one way only. -/
theorem unique (h : Settles entries equalities listed) (h' : Settles entries equalities' listed') :
    equalities = equalities' ∧ listed = listed' := by
  induction h generalizing equalities' listed' with
  | nil =>
    cases h'
    exact ⟨rfl, rfl⟩
  | equality hset hkey _ ih =>
    cases h' with
    | equality _ _ hrest =>
      obtain ⟨rfl, rfl⟩ := ih hrest
      exact ⟨rfl, rfl⟩
    | listed _ hkey' _ => tauto
    | dropped hunset _ => tauto
  | listed hset hkey _ ih =>
    cases h' with
    | equality _ hkey' _ => tauto
    | listed _ _ hrest =>
      obtain ⟨rfl, rfl⟩ := ih hrest
      exact ⟨rfl, rfl⟩
    | dropped hunset _ => tauto
  | dropped hunset _ ih =>
    cases h' with
    | equality hset _ _ => tauto
    | listed hset _ _ => tauto
    | dropped _ hrest => exact ih hrest

/-- The equalities keep the order of the entries. -/
theorem sublist (h : Settles entries equalities listed) : equalities.Sublist entries := by
  induction h with
  | nil => exact .slnil
  | equality _ _ _ ih => exact ih.cons_cons _
  | listed _ _ _ ih => exact ih.cons _
  | dropped _ _ ih => exact ih.cons _

theorem listed_sublist (h : Settles entries equalities listed) :
    listed.Sublist (entries.map Prod.fst) := by
  induction h with
  | nil => exact .slnil
  | equality _ _ _ ih => exact ih.cons _
  | listed _ _ _ ih => exact ih.cons_cons _
  | dropped _ _ ih => exact ih.cons _

/-- Entries in another order become the same equalities and list the same keys, in that order. -/
theorem perm (h : Settles entries equalities listed) (h' : Settles entries' equalities' listed')
    (hperm : entries.Perm entries') : equalities.Perm equalities' ∧ listed.Perm listed' := by
  obtain ⟨rfl, rfl⟩ := h.unique (settles_matched entries)
  obtain ⟨rfl, rfl⟩ := h'.unique (settles_matched entries')
  exact ⟨hperm.filter _, (hperm.filter _).map _⟩

theorem bare_of_mem (h : Settles entries equalities listed) {e : String × Value}
    (he : e ∈ equalities) : '-' ∉ e.1.toList ∧ e.1 ∉ reservedKeys := by
  induction h with
  | nil => exact absurd he List.not_mem_nil
  | equality _ hkey _ ih =>
    rcases List.mem_cons.mp he with rfl | he
    · exact hkey
    · exact ih he
  | listed _ _ _ ih => exact ih he
  | dropped _ _ ih => exact ih he

end Settles

section

variable [Host] {b : Builder}

/-- Takes the entry of a key out of the dictionary and settles it. -/
def settle (b : Builder) (key : String) : Builder :=
  let v := b.filters.value key
  let rest := { b with filters := b.filters.eraseAll [key] }
  if (Key.parse? key).any Key.isBare && !reservedKeys.contains key then
    if v.isPresent then { rest with stages := rest.stages ++ [.equality key v] } else rest
  else if v.isPresent then { rest with unmatched := rest.unmatched ++ [key] }
  else rest

/-- The entry that is taken out first is settled, and the others stay where they are. -/
theorem settle_eq {key : String} {v : Value} (h : b.filters.entries = (key, v) :: rest) :
    ∃ filters : Filters, filters.entries = rest ∧ b.settle key = { b with
      stages := b.stages ++ sweep [(key, v)]
      unmatched := b.unmatched ++ leftovers [(key, v)]
      filters := filters } := by
  refine ⟨b.filters.eraseAll [key], ?_, ?_⟩
  · have hnodup := b.filters.nodup
    rw [h, List.map_cons, List.nodup_cons] at hnodup
    have hothers : ∀ e ∈ rest, e.1 ≠ key := by
      intro e he hkey
      exact hnodup.1 (List.mem_map.mpr ⟨e, he, hkey⟩)
    rw [Filters.entries_eraseAll, h, List.filter_cons_of_neg (by simp),
      List.filter_eq_self.mpr (by simpa using hothers)]
  · have hvalue : b.filters.value key = v := by
      have hget : b.filters.get? key = some v := by
        rw [Filters.get?_eq_some_iff, h]
        exact List.mem_cons_self
      rw [Filters.value, hget, Option.getD_some]
    simp only [settle, hvalue]
    change (if isSweepable key = true then _ else _) = _
    by_cases hkey : isSweepable key = true <;> by_cases hset : v.isPresent = true <;>
      simp [sweep, leftovers, hkey, hset]

theorem foldl_settle_of_entries (h : b.filters.entries = entries) :
    (entries.map Prod.fst).foldl settle b = b.build := by
  induction entries generalizing b with
  | nil =>
    have hfilters : b.filters = .empty := Filters.eq_of_entries h
    simp [build, h, sweep, leftovers, ← hfilters]
  | cons e rest ih =>
    obtain ⟨filters, hfilters, hsettle⟩ := settle_eq h
    rw [List.map_cons, List.foldl_cons, hsettle, ih hfilters]
    -- What the first entry and the others come to is what all of them come to.
    have hstages : sweep (e :: rest) = sweep [e] ++ sweep rest := sweep_append [e] rest
    have hlisted : leftovers (e :: rest) = leftovers [e] ++ leftovers rest :=
      leftovers_append [e] rest
    simp [build, h, hfilters, hstages, hlisted]

/-- Building comes to settling the entries one after the other. -/
theorem foldl_settle (b : Builder) : b.filters.keys.foldl settle b = b.build :=
  foldl_settle_of_entries rfl

theorem build_build (b : Builder) : b.build.build = b.build := by
  simp [build, sweep, leftovers, Filters.empty]

/-- Building settles the entries of the dictionary in their order. It appends the equalities to
the stages and the keys that it lists to those already there, empties the dictionary, and leaves
the zone, the settings and the copied values alone. It comes to taking the entries out one by one,
and building again changes nothing. No key that was made with the suffix of an operator becomes an
equality. -/
theorem build_settles (b : Builder) : ∃ after equalities listed,
    b.step .build = .ok after ∧
    Settles b.filters.entries equalities listed ∧
    (∀ es ls, Settles b.filters.entries es ls → es = equalities ∧ ls = listed) ∧
    after.stages = b.stages ++ equalities.map (fun e => .equality e.1 e.2) ∧
    after.documents = b.documents ++
      equalities.map (fun e => .single "$match" (.single e.1 e.2)) ∧
    after.unmatched = b.unmatched ++ listed ∧
    after.filters = .empty ∧
    (after.timezone = b.timezone ∧ after.zone = b.zone ∧ after.query = b.query ∧
      after.settings = b.settings) ∧
    after = b.filters.keys.foldl settle b ∧
    after.step .build = .ok after ∧
    ∀ (field : Value) (op : Operator), op.suffix ≠ "" →
      ∀ e ∈ equalities, e.1 ≠ Rule.operatorKey field op := by
  have hsettles := settles_matched b.filters.entries
  have hdocuments : b.build.documents = b.documents ++
      (matched b.filters.entries).map (fun e => .single "$match" (.single e.1 e.2)) := by
    simp [documents, build, sweep_eq, Function.comp_def, Stage.equality, Stage.toValue,
      Query.single, Query.toValue, Condition.toValue, Value.single, Value.record]
  refine ⟨b.build, _, _, rfl, hsettles, fun es ls h => h.unique hsettles, rfl, hdocuments, rfl, rfl,
    ⟨rfl, rfl, rfl, rfl⟩, (foldl_settle b).symm, congrArg Except.ok b.build_build, ?_⟩
  intro field op hop e he hkey
  have hdash := Rule.dash_mem_operatorKey field hop
  rw [← hkey] at hdash
  exact (hsettles.bare_of_mem he).1 hdash

end

/-- Two names, a bound that nothing has read, a flag and a list of queries, and a note without
text. -/
def untouched : Filters := .ofList [("name", .text "a"), ("age-gt", .int 3), ("note", .text ""),
  ("range-within-date", .bool true), ("or", .list []), ("city", .text "b")]

theorem build_settles_untouched : ∃ after, (usual untouched).step .build = .ok after ∧
    after.stages = [.equality "name" (.text "a"), .equality "city" (.text "b")] ∧
    after.unmatched = ["age-gt", "range-within-date", "or"] ∧ after.step .build = .ok after := by
  obtain ⟨after, equalities, listed, hstep, -, hunique, hstages, -, hunmatched, -, -, -, hagain,
    -⟩ := build_settles (usual untouched)
  have hentries : untouched.entries = [("name", .text "a"), ("age-gt", .int 3),
      ("note", .text ""), ("range-within-date", .bool true), ("or", .list []),
      ("city", .text "b")] := rfl
  have hsettles : Settles (usual untouched).filters.entries
      [("name", .text "a"), ("city", .text "b")] ["age-gt", "range-within-date", "or"] := by
    change Settles untouched.entries _ _
    rw [hentries]
    exact .equality (by simp) (by decide) <| .listed (by simp) (by decide) <|
      .dropped (by simp) <| .listed (by simp) (by decide) <| .listed (by simp) (by decide) <|
      .equality (by simp) (by decide) .nil
  obtain ⟨rfl, rfl⟩ := hunique _ _ hsettles
  exact ⟨after, hstep, hstages, hunmatched, hagain⟩

end Builder

end FilterPipeline
