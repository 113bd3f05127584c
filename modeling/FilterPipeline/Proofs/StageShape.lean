import FilterPipeline.Host.Published
import FilterPipeline.Proofs.Joins
import FilterPipeline.Proofs.Run

/-!
The shape of the stages that a builder holds, as documents. A rule gives no stage rather than an
empty one: every query has a field, every range a bound, and every list of conditions an
element. A join names its collection and its array, and only a strict join unwinds an array,
which is its own and was filled by the stage before. Each step appends a block of this shape,
so the stages have it in every state.
-/

namespace FilterPipeline

namespace Value

/-- The value is a document with a given field. -/
def HasField (v : Value) (name : String) (item : Value) : Prop :=
  ∃ fields, v = .document fields ∧ (.text name, item) ∈ fields

/-- A stage that filters by a query with at least one field. -/
def IsMatch (v : Value) : Prop :=
  ∃ fields, fields ≠ [] ∧ v = .single "$match" (.document fields)

/-- A filter whose fields all have bounds, each at least one. -/
def IsBoundsMatch (v : Value) : Prop :=
  ∃ fields, fields ≠ [] ∧ v = .single "$match" (.document fields) ∧
    ∀ e ∈ fields, ∃ bounds, bounds ≠ [] ∧ e.2 = .document bounds

/-- A filter by a list of queries that is not empty. -/
def IsListMatch (v : Value) (operator : String) : Prop :=
  ∃ queries, queries ≠ [] ∧ v = .single "$match" (.single operator (.list queries))

/-- A filter by an expression that is a list of conditions, and not an empty one. -/
def IsExpressionMatch (v : Value) : Prop :=
  ∃ conditions, conditions ≠ [] ∧
    v = .single "$match" (.single "$expr" (.single "$and" (.list conditions)))

/-- A join that names its collection and its array. -/
def IsLookup (v target : Value) : Prop :=
  ∃ body collection, v = .single "$lookup" body ∧
    body.HasField "from" collection ∧ collection.isTruthy = true ∧
    body.HasField "as" target ∧ target.isTruthy = true

/-- The unwinding of an array that drops documents in which it is empty. -/
def IsUnwind (v : Value) (path : String) : Prop :=
  v = .single "$unwind" (.record [("path", .text path),
    ("preserveNullAndEmptyArrays", .bool false)])

theorem single_inj {name other : String} {v w : Value} :
    single name v = single other w ↔ name = other ∧ v = w := by
  simp [single, record]

theorem isMatch_single (name v : Value) : IsMatch (.single "$match" (.document [(name, v)])) :=
  ⟨[(name, v)], List.cons_ne_nil _ _, rfl⟩

theorem IsBoundsMatch.isMatch {v : Value} (h : v.IsBoundsMatch) : v.IsMatch := by
  obtain ⟨fields, hne, hv, _⟩ := h
  exact ⟨fields, hne, hv⟩

theorem IsListMatch.isMatch {operator : String} {v : Value} (h : v.IsListMatch operator) :
    v.IsMatch := by
  obtain ⟨queries, _, rfl⟩ := h
  exact isMatch_single ..

theorem IsExpressionMatch.isMatch {v : Value} (h : v.IsExpressionMatch) : v.IsMatch := by
  obtain ⟨conditions, _, rfl⟩ := h
  exact isMatch_single ..

end Value

/-- All stages are filters, joins and unwindings, and each unwinding comes right after the join
that fills its array. -/
structure WellFormed (stages : List Value) : Prop where
  known : ∀ v ∈ stages, v.IsMatch ∨ (∃ target, v.IsLookup target) ∨ ∃ path, v.IsUnwind path
  joined : ∀ i body, stages[i]? = some (.single "$unwind" body) →
    ∃ j name v, i = j + 1 ∧ stages[j]? = some v ∧ v.IsLookup (.text name) ∧
      (Value.single "$unwind" body).IsUnwind (fieldPath name)

namespace WellFormed

variable {front back stages : List Value} {v w : Value}

theorem nil : WellFormed [] := ⟨by simp, by simp⟩

theorem append (hfront : WellFormed front) (hback : WellFormed back) :
    WellFormed (front ++ back) where
  known v hv := by
    rcases List.mem_append.mp hv with hv | hv
    · exact hfront.known v hv
    · exact hback.known v hv
  joined i body hi := by
    by_cases hlt : i < front.length
    · rw [List.getElem?_append_left hlt] at hi
      obtain ⟨j, name, v, rfl, hj, hv⟩ := hfront.joined i body hi
      refine ⟨j, name, v, rfl, ?_, hv⟩
      rw [List.getElem?_append_left (by omega), hj]
    · -- The join before an unwinding of the second list is in that list too.
      have hle : front.length ≤ i := by omega
      rw [List.getElem?_append_right hle] at hi
      obtain ⟨j, name, v, hij, hj, hv⟩ := hback.joined _ body hi
      refine ⟨front.length + j, name, v, by omega, ?_, hv⟩
      rw [List.getElem?_append_right (by omega)]
      simpa using hj

theorem of_matches (h : ∀ v ∈ stages, v.IsMatch) : WellFormed stages where
  known v hv := Or.inl (h v hv)
  joined i body hi := by
    obtain ⟨fields, _, hmatch⟩ := h _ (List.mem_of_getElem? hi)
    exact absurd (Value.single_inj.mp hmatch).1 (by decide)

theorem lookup {target : Value} (h : v.IsLookup target) : WellFormed [v] where
  known w hw := by
    rw [List.mem_singleton.mp hw]
    exact Or.inr (Or.inl ⟨target, h⟩)
  joined i body hi := by
    obtain ⟨join, _, hlookup, _⟩ := h
    have hmem := List.mem_singleton.mp (List.mem_of_getElem? hi)
    rw [hlookup] at hmem
    exact absurd (Value.single_inj.mp hmem).1 (by decide)

theorem lookup_unwind {name : String} (h : v.IsLookup (.text name))
    (hw : w.IsUnwind (fieldPath name)) : WellFormed [v, w] where
  known u hu := by
    rcases List.mem_pair.mp hu with rfl | rfl
    · exact Or.inr (Or.inl ⟨_, h⟩)
    · exact Or.inr (Or.inr ⟨_, hw⟩)
  joined i body hi := by
    match i with
    | 0 =>
      obtain ⟨join, _, hlookup, _⟩ := h
      rw [List.getElem?_cons_zero, Option.some.injEq, hlookup] at hi
      exact absurd (Value.single_inj.mp hi).1 (by decide)
    | 1 =>
      refine ⟨0, name, v, rfl, rfl, h, ?_⟩
      have hi' : w = .single "$unwind" body := by simpa using hi
      exact hi' ▸ hw
    | i + 2 => simp at hi

end WellFormed

/-- If a computation has a result, the documents of its stages have a property. -/
structure Gives (x : Except Error Translation) (P : Value → Prop) : Prop where
  of_ok : ∀ t, x = .ok t → ∀ stage ∈ t.stages, P stage.toValue

namespace Gives

variable {α : Type} {P : Value → Prop} {ks : List String}

theorem skip (ks : List String) : Gives (pure (.skip ks)) P where
  of_ok t ht stage hstage := by
    cases ht
    exact absurd hstage List.not_mem_nil

theorem of {stage : Stage} (h : P stage.toValue) (ks : List String) :
    Gives (pure (.of stage ks)) P where
  of_ok t ht other hother := by
    cases ht
    rwa [List.mem_singleton.mp hother]

theorem error (e : Error) : Gives (.error e) P where
  of_ok t ht := by cases ht

theorem bind {x : Except Error α} {next : α → Except Error Translation}
    (h : ∀ a, x = .ok a → Gives (next a) P) : Gives (x >>= next) P := by
  cases x with
  | error e => exact error e
  | ok a => exact h a rfl

theorem ite {p : Prop} [Decidable p] {x y : Except Error Translation} (hx : p → Gives x P)
    (hy : ¬ p → Gives y P) : Gives (if p then x else y) P := by
  split
  · exact hx ‹_›
  · exact hy ‹_›

theorem report {about v : Value} : Gives (Rule.report about v >>= fun _ => pure (.skip ks)) P :=
  bind fun _ _ => skip ks

/-- A stage about one field is a filter with that field. -/
theorem field {field : Value} {c : Condition} :
    Gives (Rule.matchField field c >>= fun stage => pure (.of stage ks)) Value.IsMatch := by
  refine bind fun stage hstage => of ?_ ks
  unfold Rule.matchField at hstage
  split at hstage
  · rw [← Except.ok.inj hstage]
    exact Value.isMatch_single ..
  · cases hstage

end Gives

namespace Rule

theorem equalityMatch_gives (f : Filters) (field given : Value)
    (convert : Value → Except Error (Option Value)) :
    Gives (equalityMatch f field given convert) Value.IsMatch := by
  refine .bind fun resolved _ => .ite (fun _ => .skip _) fun _ => .bind fun converted _ => ?_
  cases converted with
  | none => exact .report
  | some v => exact .field

theorem operandMatch_gives (f : Filters) (field given : Value) (op : Operator)
    (condition : Value → Condition) :
    Gives (operandMatch f field given op condition) Value.IsMatch :=
  .bind fun _ _ => .bind fun _ _ => .ite (fun _ => .skip _) fun _ => .field

theorem flagMatch_gives (f : Filters) (field : Value) (op : Operator) (c : Condition) :
    Gives (flagMatch f field op c) Value.IsMatch :=
  .bind fun _ _ => .bind fun _ _ => .ite (fun _ => .skip _) fun _ => .field

theorem idListMatch_gives [Host] (f : Filters) (field key given : Value) :
    Gives (idListMatch f field key given) Value.IsMatch := by
  refine .bind fun resolved _ => .ite (fun _ => .skip _) fun _ => .bind fun oids _ => ?_
  cases oids with
  | nil => exact .skip _
  | cons oid rest => exact .field

theorem dayComparisonMatch_gives [Host] (f : Filters) (zone : Except Error Zone) (field : Value)
    (c : Comparison) : Gives (dayComparisonMatch f zone field c) Value.IsMatch := by
  refine .bind fun key _ => .bind fun resolved _ => .ite (fun _ => .skip _) fun _ => ?_
  refine .bind fun z _ => .bind fun reading _ => ?_
  cases reading with
  | none => exact .report
  | some m => exact .bind fun bound _ => .field

theorem isBounds_toValue {limits : List (Comparison × Value)} (h : limits ≠ []) :
    ∃ bounds, bounds ≠ [] ∧ (Condition.bounds limits).toValue = .document bounds :=
  ⟨_, by simpa using h, rfl⟩

/-- A range with bounds is a filter of which each field has them. -/
theorem isBoundsMatch_of_matchRange {field other : Value} {limits : List (Comparison × Value)}
    {stage : Stage} (h : matchRange field other limits = .ok stage) (hlimits : limits ≠ []) :
    stage.toValue.IsBoundsMatch := by
  have hbounds := isBounds_toValue hlimits
  unfold matchRange matchField at h
  split at h
  · split at h
    · rw [← Except.ok.inj h]
      exact ⟨_, List.cons_ne_nil _ _, rfl, by simpa using hbounds⟩
    · cases h
  · split at h
    · rw [← Except.ok.inj h]
      exact ⟨_, List.cons_ne_nil _ _, rfl, by simpa using hbounds⟩
    · cases h

/-- A range is left out if it has no bounds. -/
theorem matchRange_gives (field other : Value) (limits : List (Comparison × Value))
    (ks : List String) :
    Gives (if limits.isEmpty then pure (.skip ks)
      else matchRange field other limits >>= fun stage => pure (.of stage ks))
      Value.IsBoundsMatch := by
  refine .ite (fun _ => .skip _) fun hlimits => .bind fun stage hstage => .of ?_ _
  exact isBoundsMatch_of_matchRange hstage (by simpa using hlimits)

/-- An expression is left out if it has no conditions. -/
theorem expression_gives (limits : List Limit) (ks : List String) :
    Gives (if limits.isEmpty then pure (.skip ks)
      else pure (.of (.filter (.expression limits)) ks)) Value.IsExpressionMatch := by
  refine .ite (fun _ => .skip _) fun hlimits => .of ?_ _
  exact ⟨limits.map Limit.toValue, by simpa using hlimits, rfl⟩

theorem isExpressionMatch_of_spanLimits {startField endField bound : Value}
    {stored : String → Operand} {limits : List Limit}
    (h : spanLimits startField endField stored bound = .ok limits) :
    (Stage.filter (.expression limits)).toValue.IsExpressionMatch := by
  refine ⟨limits.map Limit.toValue, ?_, rfl⟩
  obtain ⟨startName, -, hend⟩ := exists_of_bind_eq_ok h
  obtain ⟨endName, -, hlimits⟩ := exists_of_bind_eq_ok hend
  rw [← Except.ok.inj hlimits]
  simp

theorem todayMatch_gives [Host] (f : Filters) (zone : Except Error Zone)
    (startField endField now : Value) :
    Gives (todayMatch f zone startField endField now) Value.IsExpressionMatch := by
  refine .ite (fun _ => .skip _) fun _ => ?_
  refine .bind fun z _ => .bind fun now _ => .bind fun m _ => .bind fun bound _ => ?_
  exact .bind fun limits hlimits => .of (isExpressionMatch_of_spanLimits hlimits) _

theorem timeOfDayMatch_gives [Host] (f : Filters) (zone : Except Error Zone)
    (startField endField given now : Value) :
    Gives (timeOfDayMatch f zone startField endField given now) Value.IsExpressionMatch := by
  refine .ite (fun _ => .skip _) fun _ => .bind fun time _ => ?_
  cases time with
  | none => exact .bind fun _ _ => .skip _
  | some t => exact .bind fun limits hlimits => .of (isExpressionMatch_of_spanLimits hlimits) _

theorem logicalMatch_gives {query : List Value → Query} {P : Value → Prop} (f : Filters)
    (key : String)
    (h : ∀ queries, queries ≠ [] → P (Stage.filter (query queries)).toValue) :
    Gives (logicalMatch f key query) P := by
  refine .bind ?_
  rintro ⟨conditions, consumed⟩ -
  dsimp only
  split
  · exact .of (h _ (List.cons_ne_nil _ _)) _
  · exact .skip _
  · exact .report

/-- What kind of filter the stage of a rule is. -/
def Emits (r : Rule) (v : Value) : Prop :=
  match r with
  | .range _ _ | .dayRange _ => v.IsBoundsMatch
  | .today _ _ _ | .timeOfDay _ _ _ _ | .timeRange _ _ | .dayRangeAcross _ _ =>
      v.IsExpressionMatch
  | .anyOf | .anyOfNamed _ => v.IsListMatch "$or"
  | .allOf => v.IsListMatch "$and"
  | _ => v.IsMatch

theorem Emits.isMatch {r : Rule} {v : Value} (h : r.Emits v) : v.IsMatch := by
  cases r with
  | range | dayRange => exact Value.IsBoundsMatch.isMatch h
  | today | timeOfDay | timeRange | dayRangeAcross => exact Value.IsExpressionMatch.isMatch h
  | anyOf | allOf | anyOfNamed => exact Value.IsListMatch.isMatch h
  | _ => exact h

theorem translate_gives [Host] (r : Rule) (zone : Except Error Zone) (f : Filters) :
    Gives (r.translate zone f) r.Emits := by
  cases r <;> rw [translate]
  case text | number | truth | moment | id => exact equalityMatch_gives ..
  case search =>
    exact .bind fun _ _ => .ite (fun _ => .skip _) fun _ => .bind fun text _ => .field
  case notEqual | comparison | among | notAmong => exact operandMatch_gives ..
  case ids => exact idListMatch_gives ..
  case idsAmong => exact .bind fun _ _ => idListMatch_gives ..
  case notDeleted => exact .bind fun _ _ => .field
  case notEmpty | isNull | notNull => exact flagMatch_gives ..
  case expect => exact .bind fun _ _ => .bind fun _ _ => .ite (fun _ => .skip _) fun _ => .field
  case existence =>
    exact .bind fun _ _ => .bind fun _ _ => .ite (fun _ => .field) fun _ =>
      .ite (fun _ => .field) fun _ => .skip _
  case trueOrFalse =>
    exact .bind fun _ _ => .bind fun _ _ => .ite (fun _ => .field) fun _ =>
      .ite (fun _ => .field) fun _ => .skip _
  case range => exact .bind fun _ _ => .bind fun _ _ => matchRange_gives ..
  case dayRange field =>
    refine .bind fun _ _ => .bind fun _ _ => .bind fun lower _ => .bind fun upper _ => ?_
    exact matchRange_gives field .null (lower ++ upper) _
  case timeRange =>
    exact .bind fun _ _ => .bind fun _ _ => .bind fun _ _ => .bind fun lower _ =>
      .bind fun upper _ => expression_gives ..
  case dayComparison => exact dayComparisonMatch_gives ..
  case today => exact todayMatch_gives ..
  case timeOfDay => exact timeOfDayMatch_gives ..
  case dayRangeAcross =>
    exact .ite (fun _ => .skip _) fun _ => .bind fun _ _ => .bind fun _ _ => .bind fun lower _ =>
      .bind fun upper _ => expression_gives ..
  case anyOf | allOf =>
    exact logicalMatch_gives f _ fun queries hqueries => ⟨queries, hqueries, rfl⟩
  case anyOfNamed =>
    exact .bind fun _ _ => logicalMatch_gives f _ fun queries hqueries => ⟨queries, hqueries, rfl⟩

end Rule

namespace Builder

theorem isMatch_of_mem_sweep (entries : List (String × Value)) :
    ∀ v ∈ (sweep entries).map Stage.toValue, v.IsMatch := by
  intro v hv
  simp only [sweep, List.map_map, List.mem_map] at hv
  obtain ⟨e, _, rfl⟩ := hv
  exact Value.isMatch_single ..

theorem isLookup_toValue {l : Lookup} (hcollection : l.collection.isTruthy = true)
    (htarget : l.target.isTruthy = true) : (Stage.lookup l).toValue.IsLookup l.target := by
  refine ⟨l.toValue, l.collection, rfl, ⟨_, rfl, ?_⟩, hcollection, ⟨_, rfl, ?_⟩, htarget⟩
  · simp
  · simp

section

variable [Host] {b : Builder} {s : Step}

/-- The documents that a step appends. -/
def block (b : Builder) (s : Step) : List Value := (b.emitted s).map Stage.toValue

theorem documents_next (b : Builder) (s : Step) :
    (b.next s).documents = b.documents ++ b.block s := by
  rw [documents, (b.next_effect s).stages_eq, List.map_append]
  rfl

theorem emits_of_mem_block {r : Rule} (hr : s.rule? b.settings = some r) :
    ∀ v ∈ b.block s, r.Emits v := by
  intro v hv
  rw [block, emitted_of_rule b hr] at hv
  cases ht : b.translation? s with
  | none => simp [ht] at hv
  | some t =>
    obtain ⟨q, hq, htranslate⟩ := b.translation?_eq_some_iff.mp ht
    obtain rfl : r = q := Option.some.inj (hr.symm.trans hq)
    simp only [ht, Option.map_some, Option.getD_some, List.mem_map] at hv
    obtain ⟨stage, hstage, rfl⟩ := hv
    exact (Rule.translate_gives r _ _).of_ok t htranslate stage hstage

theorem wellFormed_block (b : Builder) (s : Step) : WellFormed (b.block s) := by
  have hrule : ∀ r, s.rule? b.settings = some r → WellFormed (b.block s) := by
    intro r hr
    exact WellFormed.of_matches fun v hv => (emits_of_mem_block hr v hv).isMatch
  cases s with
  | apply | search | notDeleted => exact hrule _ rfl
  | build => exact WellFormed.of_matches (isMatch_of_mem_sweep _)
  | lookup join pipeline =>
    cases hvs : join.elements pipeline with
    | error e => simpa [block, emitted, hvs, Except.toOption] using WellFormed.nil
    | ok vs =>
      have hblock : b.block (.lookup join pipeline) =
          (join.loose b.settings vs).map Stage.toValue := by
        simp [block, emitted, hvs, Except.toOption]
      rw [hblock, JoinRequest.loose_eq]
      split
      · rename_i hcollection
        exact WellFormed.lookup
          (isLookup_toValue hcollection (join.isTruthy_looseTarget b.settings))
      · exact WellFormed.nil
  | strictLookup join pipeline =>
    cases hstages : (join.elements pipeline).bind join.strict with
    | error e => simpa [block, emitted, hstages, Except.toOption] using WellFormed.nil
    | ok stages =>
      have hblock : b.block (.strictLookup join pipeline) = stages.map Stage.toValue := by
        simp [block, emitted, hstages, Except.toOption]
      rw [hblock]
      obtain ⟨vs, -, hstrict⟩ := exists_of_bind_eq_ok hstages
      rcases Lookup.strict_cases hstrict with rfl | ⟨hcollection, name, hname, rfl⟩
      · exact WellFormed.nil
      · have htarget := Lookup.isTruthy_strictTarget hname
        exact WellFormed.lookup_unwind (isLookup_toValue hcollection htarget) rfl
  | setTimezone | copyQuery | put | inspect | fails => exact WellFormed.nil

theorem settings_run (b : Builder) (steps : List Step) : (b.run steps).settings = b.settings := by
  induction steps generalizing b with
  | nil => rfl
  | cons s rest ih => rw [run_cons, ih, (b.next_effect s).settings_eq]

theorem wellFormed_run (h : WellFormed b.documents) (steps : List Step) :
    WellFormed (b.run steps).documents := by
  induction steps generalizing b with
  | nil => exact h
  | cons s rest ih =>
    have hnext : WellFormed (b.next s).documents := by
      rw [documents_next]
      exact h.append (wellFormed_block b s)
    exact ih hnext

/-- In every state of a builder its stages are well-formed documents, and the stages that a
step with a rule appends are of the kind of that rule. -/
theorem stages_wellFormed {filters : Filters} {timezone : String} {settings : Settings}
    (hb : create filters timezone settings = .ok b) (steps : List Step) :
    WellFormed (b.run steps).documents ∧
      ∀ i (hi : i < steps.length) (r : Rule), steps[i].rule? b.settings = some r →
        ∃ block, (b.run (steps.take (i + 1))).documents =
            (b.run (steps.take i)).documents ++ block ∧
          ∀ v ∈ block, r.Emits v := by
  have hempty : b.documents = [] := by
    rw [documents, (create_parts hb).2]
    rfl
  refine ⟨wellFormed_run (hempty ▸ WellFormed.nil) steps, fun i hi r hr => ?_⟩
  refine ⟨(b.run (steps.take i)).block steps[i], ?_, ?_⟩
  · rw [run_take_succ _ hi, documents_next]
  · rw [← settings_run b (steps.take i)] at hr
    exact emits_of_mem_block hr

end

/-- A range of which one bound is set, and a name. -/
def adults : Filters := .ofList [("age-from", .int 18), ("age-to", .text ""), ("name", .text "a")]

/-- A rule, a strict join into an array without a name of its own, and a build. -/
def joinSteps : List Step :=
  [.apply (.range (.text "age") .null),
    .strictLookup ⟨.text "orders", .text "userId", .text "_id", .null, .null⟩ (.list []), .build]

theorem stages_wellFormed_adults :
    WellFormed ((usual adults).run joinSteps).documents ∧
      ((usual adults).run joinSteps).documents.length = 4 ∧
      ((usual adults).run joinSteps).documents[2]? = some (.single "$unwind"
        (.record [("path", .text "$orders_looked_up"),
          ("preserveNullAndEmptyArrays", .bool false)])) ∧
      ∃ block, ((usual adults).run (joinSteps.take 1)).documents =
          ((usual adults).run (joinSteps.take 0)).documents ++ block ∧
        ∀ v ∈ block, (Rule.range (.text "age") .null).Emits v := by
  obtain ⟨hshape, hblocks⟩ := stages_wellFormed (create_usual adults) joinSteps
  exact ⟨hshape, rfl, rfl, hblocks 0 (by decide) _ rfl⟩

end Builder

end FilterPipeline
