import FilterPipeline.Proofs.Dictionary
import FilterPipeline.Rule

/-!
A rule looks at the keys it reads and at no others, and consumes those of them that are there.
Two dictionaries that agree on what is read are translated alike, failures included. What is
consumed is said by each branch of a rule on its own, so that it is followed through whatever
may come before a result.
-/

namespace FilterPipeline

/-- What comes to a result has come to a first one before. -/
theorem exists_of_bind_eq_ok {α β : Type} {x : Except Error α} {next : α → Except Error β} {b : β}
    (h : (x >>= next) = .ok b) : ∃ a, x = .ok a ∧ next a = .ok b := by
  cases x with
  | error e => cases h
  | ok a => exact ⟨a, rfl, h⟩

theorem exists_of_map_eq_ok {α β : Type} {x : Except Error α} {g : α → β} {b : β}
    (h : x.map g = .ok b) : ∃ a, x = .ok a ∧ g a = b := by
  cases x with
  | error e => cases h
  | ok a => exact ⟨a, rfl, Except.ok.inj h⟩

namespace Rule

open Filters

/-- The key that a value is; what is no text is in no dictionary. -/
def textKey? : Value → Option String
  | .text key => some key
  | _ => none

/-- The key of a field and an operator; it spells the name of the field out. -/
def operatorKey (field : Value) (operator : Operator) : String :=
  Key.format (String.ofList field.plainText) operator

/-- The key under which a field's existence is asked for. -/
def existenceKey? (field flagKey : Value) : Option String :=
  if flagKey.isTruthy then textKey? flagKey else some (operatorKey field .present)

/-- The key that is read unless a value is given. -/
def keyUnless (given key : Value) : List String :=
  match given with
  | .null => (textKey? key).toList
  | _ => []

/-- The keys that a rule may read. -/
def keys : Rule → List String
  | .text field given | .number field given | .truth field given | .moment field given _ =>
      keyUnless given field
  | .search field _ | .id field | .ids field | .notDeleted field => (textKey? field).toList
  | .notEqual field => [operatorKey field .notEqual]
  | .comparison field c => [operatorKey field c.operator]
  | .range field _ | .dayRange field => [operatorKey field .rangeFrom, operatorKey field .rangeTo]
  | .trueOrFalse field => [operatorKey field .isTrue, operatorKey field .isFalse]
  | .dayComparison field c => [operatorKey field c.dayOperator]
  | .today _ _ _ => [dateGate]
  | .timeOfDay _ _ _ _ => [timeGate]
  | .timeRange startField endField =>
      [operatorKey startField .timeFrom, operatorKey endField .timeTo]
  | .dayRangeAcross startField endField =>
      [dateGate, operatorKey startField .rangeFrom, operatorKey endField .rangeTo]
  | .among field given | .idsAmong field given =>
      keyUnless given (.text (operatorKey field .among))
  | .notAmong field given => keyUnless given (.text (operatorKey field .notAmong))
  | .notEmpty field => [operatorKey field .notEmpty]
  | .isNull field => [operatorKey field .isNull]
  | .notNull field => [operatorKey field .notNull]
  | .existence field => [operatorKey field .present]
  | .expect field _ flagKey => (existenceKey? field flagKey).toList
  | .anyOf => [orKey]
  | .allOf => [andKey]
  | .anyOfNamed name => [operatorKey name .anyOf]

/-- The keys that a rule reads in a dictionary. A range across two fields looks at its
bounds only when its flag is set. -/
def reads (r : Rule) (f : Filters) : List String :=
  match r with
  | .dayRangeAcross _ _ => if (f.value dateGate).isFlagSet then r.keys else [dateGate]
  | _ => r.keys

/-- The value that a rule works on: the given one, or that of a key. -/
def input (f : Filters) (given key : Value) : Except Error Value :=
  (resolve f key given).map Prod.fst

/-- The value of the key of a field and an operator. -/
def operand (f : Filters) (field : Value) (operator : Operator) : Value :=
  f.value (operatorKey field operator)

variable {f g : Filters} {α : Type}

/-- A key is known before it is written. -/
theorem writeKey_bind (field : Value) (op : Operator) (next : String → Except Error α) :
    (writeKey field op >>= next) =
      if field.isWritable then next (operatorKey field op) else .error .tooManyDigits := by
  unfold writeKey Value.write
  split <;> rfl

/-- Resolving finds a value, and uses up its key if that is there. -/
theorem resolve_eq_map (f : Filters) (key given : Value) :
    resolve f key given =
      (input f given key).map fun v => (v, (keyUnless given key).filter f.contains) := by
  unfold input
  cases given with
  | null =>
    cases key with
    | text key => rfl
    | _ => simp only [resolve]; split <;> rfl
  | _ => rfl

theorem writeExistenceKey_bind (field flagKey : Value) (next : Value → Except Error α) :
    (writeExistenceKey field flagKey >>= next) =
      if flagKey.isTruthy then next flagKey
      else if field.isWritable then next (.text (operatorKey field .present))
      else .error .tooManyDigits := by
  unfold writeExistenceKey writeKey Value.write
  split
  · rfl
  · split <;> rfl

theorem keyUnless_text (key : String) : keyUnless .null (.text key) = [key] := rfl

/-- The keys read depend on the dictionary through the date flag only. -/
theorem reads_eq_of_gate {r : Rule} (h : f.value dateGate = g.value dateGate) :
    r.reads g = r.reads f := by
  cases r with
  | dayRangeAcross startField endField => simp only [reads, h]
  | _ => rfl

theorem mem_keys_of_mem_reads {r : Rule} {key : String} (h : key ∈ r.reads f) : key ∈ r.keys := by
  cases r with
  | dayRangeAcross startField endField =>
    simp only [reads] at h
    split at h
    · exact h
    · rw [List.mem_singleton] at h
      simp [keys, h]
  | _ => exact h

section Agreement

theorem resolve_eq_of_agreeOn (given : Value) {key : Value}
    (h : AgreeOn (keyUnless given key) f g) : resolve f key given = resolve g key given := by
  cases given with
  | null =>
    cases key with
    | text key =>
      have hvalue : f.value key = g.value key := h.value_eq (List.mem_singleton.mpr rfl)
      have hfilter : [key].filter f.contains = [key].filter g.contains := h.filter_contains_eq
      simp only [resolve, hvalue, hfilter]
    | _ => rfl
  | _ => rfl

/-- The bare key of a text is read as it is. -/
theorem resolve_text_eq_of_agreeOn {ks : List String} (h : AgreeOn ks f g) {key : String}
    (hk : key ∈ ks) : resolve f (.text key) .null = resolve g (.text key) .null :=
  resolve_eq_of_agreeOn .null (h.mono (by simpa [keyUnless_text] using hk))

theorem expectMatch_eq_of_agreeOn {field expected flagKey : Value}
    (h : AgreeOn (existenceKey? field flagKey).toList f g) :
    expectMatch f field expected flagKey = expectMatch g field expected flagKey := by
  simp only [expectMatch, writeExistenceKey_bind]
  unfold existenceKey? at h
  by_cases hflag : flagKey.isTruthy = true
  · rw [if_pos hflag] at h
    simp only [if_pos hflag, resolve_eq_of_agreeOn .null h]
  · rw [if_neg hflag] at h
    have hkey : AgreeOn (keyUnless .null (.text (operatorKey field .present))) f g := h
    simp only [if_neg hflag, resolve_eq_of_agreeOn .null hkey]

/-- A range across two fields reads its flag, and its bounds only where that is set. -/
theorem dayRangeAcrossMatch_eq_of_agreeOn [Host] {zone : Except Error Zone}
    {startField endField : Value}
    (h : AgreeOn ((dayRangeAcross startField endField).reads f) f g) :
    dayRangeAcrossMatch f zone startField endField =
      dayRangeAcrossMatch g zone startField endField := by
  have hmem : dateGate ∈ (dayRangeAcross startField endField).reads f := by
    simp only [reads]
    split <;> simp [keys]
  have hgate := h.value_eq hmem
  have hskip : [dateGate].filter f.contains = [dateGate].filter g.contains :=
    AgreeOn.filter_contains_eq (h.mono (by simpa using hmem))
  by_cases hflag : (f.value dateGate).isFlagSet = true
  · have hkeys :
        AgreeOn [operatorKey startField .rangeFrom, operatorKey endField .rangeTo] f g := by
      simp only [reads, if_pos hflag] at h
      exact h.mono fun key hkey => List.mem_cons_of_mem _ hkey
    have hfrom := hkeys.value_eq (List.mem_cons_self ..)
    have hto := hkeys.value_eq (List.mem_cons_of_mem _ (List.mem_cons_self ..))
    simp only [dayRangeAcrossMatch, writeKey_bind, hgate, hfrom, hto, hskip,
      hkeys.filter_contains_eq]
  · have hflag' : ¬ (g.value dateGate).isFlagSet = true := hgate ▸ hflag
    simp [dayRangeAcrossMatch, hflag, hflag', hskip]

/-- A rule makes the same of dictionaries that agree on what it reads. -/
theorem translate_eq_of_agreeOn [Host] {r : Rule} {zone : Except Error Zone}
    (h : AgreeOn (r.reads f) f g) : r.translate zone f = r.translate zone g := by
  cases r with
  | text | number | truth | moment =>
    simp only [translate, equalityMatch, resolve_eq_of_agreeOn _ h]
  | id => simp only [translate, equalityMatch, resolve_eq_of_agreeOn .null h]
  | search => simp only [translate, searchMatch, resolve_eq_of_agreeOn .null h]
  | ids => simp only [translate, idListMatch, resolve_eq_of_agreeOn .null h]
  | notDeleted => simp only [translate, notDeletedMatch, resolve_eq_of_agreeOn .null h]
  | among | notAmong =>
    simp only [translate, operandMatch, writeKey_bind, resolve_eq_of_agreeOn _ h]
  | idsAmong => simp only [translate, idListMatch, writeKey_bind, resolve_eq_of_agreeOn _ h]
  | notEqual field =>
    have hkey : AgreeOn (keyUnless .null (.text (operatorKey field .notEqual))) f g := h
    simp only [translate, operandMatch, writeKey_bind, resolve_eq_of_agreeOn .null hkey]
  | comparison field c =>
    have hkey : AgreeOn (keyUnless .null (.text (operatorKey field c.operator))) f g := h
    simp only [translate, operandMatch, writeKey_bind, resolve_eq_of_agreeOn .null hkey]
  | notEmpty | isNull | notNull | existence | dayComparison | anyOfNamed | anyOf | allOf =>
    simp only [translate, flagMatch, existenceMatch, dayComparisonMatch, logicalMatch,
      writeKey_bind, resolve_text_eq_of_agreeOn h (List.mem_singleton.mpr rfl)]
  | today | timeOfDay =>
    have hfilter := h.filter_contains_eq
    simp only [reads, keys] at hfilter
    simp only [translate, todayMatch, timeOfDayMatch, h.value_eq (List.mem_singleton.mpr rfl),
      hfilter]
  | range | trueOrFalse | dayRange | timeRange =>
    have hfirst := h.value_eq (List.mem_cons_self ..)
    have hsecond := h.value_eq (List.mem_cons_of_mem _ (List.mem_cons_self ..))
    have hfilter := h.filter_contains_eq
    simp only [reads, keys] at hfilter
    simp only [translate, rangeMatch, trueOrFalseMatch, dayRangeMatch, timeRangeMatch,
      writeKey_bind, hfirst, hsecond, hfilter]
  | dayRangeAcross => exact dayRangeAcrossMatch_eq_of_agreeOn h
  | expect => exact expectMatch_eq_of_agreeOn h

/-- Removing keys that a rule may not read changes nothing for it. -/
theorem translate_eraseAll [Host] {r : Rule} {zone : Except Error Zone} {ks : List String}
    (hdisj : r.keys.Disjoint ks) : r.translate zone (f.eraseAll ks) = r.translate zone f := by
  apply translate_eq_of_agreeOn
  exact (AgreeOn.eraseAll f hdisj).mono fun _ => mem_keys_of_mem_reads

end Agreement

/-- If a computation has a result, that consumes the given keys and adds one stage at most. -/
structure Consumes (x : Except Error Translation) (ks : List String) : Prop where
  of_ok : ∀ t, x = .ok t → t.consumed = ks ∧ t.stages.length ≤ 1

namespace Consumes

variable {ks : List String}

theorem skip (ks : List String) : Consumes (pure (.skip ks)) ks where
  of_ok t ht := by
    cases ht
    exact ⟨rfl, Nat.zero_le 1⟩

theorem of (s : Stage) (ks : List String) : Consumes (pure (.of s ks)) ks where
  of_ok t ht := by
    cases ht
    exact ⟨rfl, Nat.le_refl 1⟩

theorem error (e : Error) : Consumes (.error e) ks where
  of_ok t ht := by cases ht

/-- What comes before a result does not matter, unless it says what is consumed. -/
theorem bind {x : Except Error α} {next : α → Except Error Translation}
    (h : ∀ a, Consumes (next a) ks) : Consumes (x >>= next) ks := by
  cases x with
  | error e => exact error e
  | ok a => exact h a

theorem resolve (given : Value) {key : Value}
    {next : Value × List String → Except Error Translation}
    (h : ∀ v, Consumes (next (v, (keyUnless given key).filter f.contains)) ks) :
    Consumes (Rule.resolve f key given >>= next) ks := by
  rw [resolve_eq_map]
  cases input f given key with
  | error e => exact error e
  | ok v => exact h v

theorem writeKey {field : Value} {op : Operator} {next : String → Except Error Translation}
    (h : Consumes (next (operatorKey field op)) ks) :
    Consumes (Rule.writeKey field op >>= next) ks := by
  rw [writeKey_bind]
  split
  · exact h
  · exact error _

theorem ite {p : Prop} [Decidable p] {x y : Except Error Translation} (hx : Consumes x ks)
    (hy : Consumes y ks) : Consumes (if p then x else y) ks := by
  split
  · exact hx
  · exact hy

theorem stage {x : Except Error Stage} : Consumes (x >>= fun s => pure (.of s ks)) ks :=
  bind fun s => of s ks

theorem report {about v : Value} : Consumes (Rule.report about v >>= fun _ => pure (.skip ks)) ks :=
  bind fun _ => skip ks

end Consumes

section Consumption

theorem equalityMatch_consumes (f : Filters) (field given : Value)
    (convert : Value → Except Error (Option Value)) :
    Consumes (equalityMatch f field given convert) ((keyUnless given field).filter f.contains) := by
  refine .resolve _ fun raw => .ite (.skip _) (.bind fun converted => ?_)
  cases converted with
  | none => exact .report
  | some v => exact .stage

theorem operandMatch_consumes (f : Filters) (field given : Value) (op : Operator)
    (condition : Value → Condition) :
    Consumes (operandMatch f field given op condition)
      ((keyUnless given (.text (operatorKey field op))).filter f.contains) :=
  .writeKey (.resolve _ fun _ => .ite (.skip _) .stage)

theorem idListMatch_consumes [Host] (f : Filters) (field key given : Value) :
    Consumes (idListMatch f field key given) ((keyUnless given key).filter f.contains) := by
  refine .resolve _ fun raw => .ite (.skip _) (.bind fun oids => ?_)
  cases oids with
  | nil => exact .skip _
  | cons oid rest => exact .stage

theorem logicalMatch_consumes (f : Filters) (key : String) (query : List Value → Query) :
    Consumes (logicalMatch f key query) ([key].filter f.contains) := by
  refine .resolve .null fun conditions => ?_
  dsimp only
  split
  · exact .of ..
  · exact .skip _
  · exact .report

theorem flagMatch_consumes (f : Filters) (field : Value) (op : Operator) (c : Condition) :
    Consumes (flagMatch f field op c) ([operatorKey field op].filter f.contains) :=
  .writeKey (.resolve .null fun _ => .ite (.skip _) .stage)

theorem expectMatch_consumes (f : Filters) (field expected flagKey : Value) :
    Consumes (expectMatch f field expected flagKey)
      ((existenceKey? field flagKey).toList.filter f.contains) := by
  unfold expectMatch existenceKey?
  rw [writeExistenceKey_bind]
  split
  · exact .resolve .null fun raw => .ite (.skip _) .stage
  · refine .ite ?_ (.error _)
    exact .resolve .null fun raw => .ite (.skip _) .stage

theorem dayComparisonMatch_consumes [Host] (f : Filters) (zone : Except Error Zone) (field : Value)
    (c : Comparison) : Consumes (dayComparisonMatch f zone field c)
      ([operatorKey field c.dayOperator].filter f.contains) := by
  refine .writeKey (.resolve .null fun raw => .ite (.skip _) ?_)
  refine .bind fun z => .bind fun reading => ?_
  cases reading with
  | none => exact .report
  | some m => exact .bind fun bound => .stage

theorem timeOfDayMatch_consumes [Host] (f : Filters) (zone : Except Error Zone)
    (startField endField given now : Value) :
    Consumes (timeOfDayMatch f zone startField endField given now)
      ([timeGate].filter f.contains) := by
  refine .ite (.skip _) (.bind fun time => ?_)
  cases time with
  | none => exact .bind fun _ => .skip _
  | some t => exact .bind fun limits => .of ..

theorem dayRangeAcrossMatch_consumes [Host] (f : Filters) (zone : Except Error Zone)
    (startField endField : Value) :
    Consumes (dayRangeAcrossMatch f zone startField endField)
      (((dayRangeAcross startField endField).reads f).filter f.contains) := by
  simp only [dayRangeAcrossMatch, reads]
  by_cases hflag : (f.value dateGate).isFlagSet = true
  · rw [if_neg (by simp [hflag]), if_pos hflag]
    refine .writeKey (.writeKey (.bind fun lower => .bind fun upper => ?_))
    rw [← List.filter_append]
    exact .ite (.skip _) (.of ..)
  · rw [if_pos (by simp [hflag]), if_neg hflag]
    exact .skip _

/-- What is consumed is what is there of the keys read. -/
theorem translate_consumes [Host] (r : Rule) (zone : Except Error Zone) (f : Filters) :
    Consumes (r.translate zone f) ((r.reads f).filter f.contains) := by
  cases r <;> rw [translate]
  case text | number | truth | moment => exact equalityMatch_consumes ..
  case id => exact equalityMatch_consumes _ _ .null _
  case search =>
    exact .resolve .null fun raw => .ite (.skip _) (.bind fun text => .stage)
  case notEqual | comparison => exact operandMatch_consumes _ _ .null ..
  case among | notAmong => exact operandMatch_consumes ..
  case ids => exact idListMatch_consumes _ _ _ .null
  case idsAmong => exact .writeKey (idListMatch_consumes ..)
  case notDeleted => exact .resolve .null fun raw => .stage
  case notEmpty | isNull | notNull => exact flagMatch_consumes ..
  case expect => exact expectMatch_consumes ..
  case anyOf | allOf => exact logicalMatch_consumes ..
  case anyOfNamed => exact .writeKey (logicalMatch_consumes ..)
  case existence =>
    exact .writeKey (.resolve .null fun raw => .ite .stage (.ite .stage (.skip _)))
  case trueOrFalse => exact .writeKey (.writeKey (.ite .stage (.ite .stage (.skip _))))
  case range => exact .writeKey (.writeKey (.ite (.skip _) .stage))
  case dayRange =>
    exact .writeKey (.writeKey (.bind fun lower => .bind fun upper => .ite (.skip _) .stage))
  case timeRange =>
    exact .bind fun z => .writeKey (.writeKey (.bind fun lower => .bind fun upper =>
      .ite (.skip _) (.of ..)))
  case dayComparison => exact dayComparisonMatch_consumes ..
  case today =>
    exact .ite (.skip _) (.bind fun z => .bind fun now => .bind fun m => .bind fun bound =>
      .bind fun limits => .of ..)
  case timeOfDay => exact timeOfDayMatch_consumes ..
  case dayRangeAcross => exact dayRangeAcrossMatch_consumes ..

theorem consumed_of_translate [Host] {r : Rule} {zone : Except Error Zone} {t : Translation}
    (h : r.translate zone f = .ok t) : t.consumed = (r.reads f).filter f.contains :=
  ((translate_consumes r zone f).of_ok t h).1

theorem stages_length_le [Host] {r : Rule} {zone : Except Error Zone} {t : Translation}
    (h : r.translate zone f = .ok t) : t.stages.length ≤ 1 :=
  ((translate_consumes r zone f).of_ok t h).2

theorem mem_consumed_iff [Host] {r : Rule} {zone : Except Error Zone} {t : Translation}
    (h : r.translate zone f = .ok t) {key : String} :
    key ∈ t.consumed ↔ key ∈ r.reads f ∧ key ∈ f.keys := by
  rw [consumed_of_translate h, List.mem_filter, contains_iff]

end Consumption

end Rule

end FilterPipeline
