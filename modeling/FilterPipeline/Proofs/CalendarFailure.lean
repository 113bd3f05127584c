import FilterPipeline.Proofs.IdentifierLists
import FilterPipeline.Proofs.PublishedZones
import FilterPipeline.Proofs.Run

/-!
How values of a dictionary make a step fail. A rule whose fields have names, and whose present
is not at an end of the calendar, fails in two ways only: a value that it reads as a moment
leaves the calendar before it can be stored, or a value that it has to write has an integer that
is too long for a text. Such values exist, and the rule fails at every one of them. All other
values, of whatever kind, are translated or passed over.
-/

namespace FilterPipeline

/-- Two things can go wrong in a computation, each under one condition exactly: its result would lie
outside of the calendar, or something cannot be written. -/
structure FailsExactly {α : Type} (x : Except Error α) (lost unwritable : Prop) : Prop where
  error_iff : ∀ e, x = .error e ↔ e = .outsideCalendar ∧ lost ∨ e = .tooManyDigits ∧ unwritable

namespace FailsExactly

variable {α β : Type} {x : Except Error α} {p p' q q' : Prop}

theorem ok (a : α) (hp : ¬ p) (hq : ¬ q) : FailsExactly (.ok a : Except Error α) p q where
  error_iff e := by simp [hp, hq]

theorem of_exists (h : ∃ a, x = .ok a) (hp : ¬ p) (hq : ¬ q) : FailsExactly x p q := by
  obtain ⟨a, rfl⟩ := h
  exact ok a hp hq

theorem inCalendar (o : Option α) : FailsExactly (inCalendar o) (o = none) False where
  error_iff e := by
    cases o with
    | none => simpa [FilterPipeline.inCalendar] using eq_comm
    | some a => simp [FilterPipeline.inCalendar]

theorem map (f : α → β) (h : FailsExactly x p q) : FailsExactly (x.map f) p q where
  error_iff e := by
    rw [← h.error_iff e]
    cases x <;> simp [Except.map]

theorem congr (h : FailsExactly x p q) (hp : p ↔ p') (hq : q ↔ q') : FailsExactly x p' q' where
  error_iff e := by rw [h.error_iff e, hp, hq]

/-- What leaves the calendar fails for this reason. -/
theorem of_error {e : Error} (hx : FailsExactly x p False) (h : x = .error e) :
    e = .outsideCalendar ∧ p := by simpa using (hx.error_iff e).mp h

/-- Where a computation leaves the calendar it comes to nothing else. -/
theorem ne_ok (hx : FailsExactly x p q) (hp : p) (a : α) : x ≠ .ok a := by
  intro h
  have hfails := (hx.error_iff .outsideCalendar).mpr (Or.inl ⟨rfl, hp⟩)
  rw [h] at hfails
  cases hfails

/-- Of two computations that may leave the calendar the second one runs only if the first one has a
result. -/
theorem bind {f : α → Except Error β} (hx : FailsExactly x p False)
    (hf : ∀ a, FailsExactly (f a) p' False) : FailsExactly (x >>= f) (p ∨ p') False where
  error_iff e := by
    cases h : x with
    | error d =>
      obtain ⟨rfl, hp⟩ := hx.of_error h
      change Except.error _ = .error e ↔ _
      simpa [hp] using eq_comm
    | ok a =>
      have hp : ¬ p := fun hp => hx.ne_ok hp a h
      change f a = .error e ↔ _
      rw [(hf a).error_iff e]
      simp [hp]

/-- What always has a result does not add to the condition. -/
theorem bind_exists {f : α → Except Error β} (hx : FailsExactly x p False)
    (hf : ∀ a, ∃ b, f a = .ok b) : FailsExactly (x >>= f) p False :=
  (hx.bind fun a => of_exists (hf a) not_false not_false).congr (iff_of_eq (or_false p)) Iff.rfl

end FailsExactly

namespace Value

/-- What counts as false has a text. -/
theorem isWritable_of_not_isTruthy {v : Value} (h : ¬ v.isTruthy = true) :
    v.isWritable = true := by
  cases v with
  | int n =>
    obtain rfl : n = 0 := by simpa [isTruthy] using h
    rfl
  | list vs | tuple vs | set vs =>
    obtain rfl : vs = [] := by simpa [isTruthy] using h
    rfl
  | document fields =>
    obtain rfl : fields = [] := by simpa [isTruthy] using h
    rfl
  | _ => rfl

theorem spell_fails (v : Value) : FailsExactly v.spell False (v.isWritable = false) where
  error_iff e := by
    unfold spell
    by_cases hv : v.isWritable = true
    · simp [hv]
    · simpa [hv] using eq_comm

variable [Host]

/-- Read as a moment, and with another time of day if one is given, the value cannot be
stored. -/
def Overflows (v : Value) (z : Zone) (t : Option TimeOfDay) : Prop :=
  ∃ m, v.moment? = some m ∧ (z.LosesReading m ∨ ¬ InCalendar (z.boundOf m t))

theorem limit?_fails (v : Value) (z : Zone) (t : Option TimeOfDay) :
    FailsExactly (v.limit? z t) (v.Overflows z t) False := by
  unfold limit? Overflows
  cases v.moment? with
  | none => exact .ok _ (by simp) not_false
  | some m =>
    refine ((FailsExactly.inCalendar _).map _).congr ?_ Iff.rfl
    rw [z.stored?_eq_none_iff m t]
    simp

theorem isPresent_of_overflows {v : Value} {z : Zone} {t : Option TimeOfDay}
    (h : v.Overflows z t) : v.isPresent = true := by
  obtain ⟨m, hm, -⟩ := h
  by_contra hv
  rw [moment?_of_not_isPresent hv] at hm
  cases hm

end Value

namespace Rule

/-- The fields that a rule names. -/
def fields : Rule → List Value
  | .text field _ | .search field _ | .notEqual field | .number field _ | .comparison field _
  | .range field _ | .truth field _ | .trueOrFalse field | .moment field _ _ | .dayRange field
  | .dayComparison field _ | .among field _ | .notAmong field _ | .idsAmong field _ | .id field
  | .ids field | .notEmpty field | .notDeleted field | .isNull field | .notNull field
  | .existence field | .expect field _ _ | .anyOfNamed field => [field]
  | .today startField endField _ | .timeOfDay startField endField _ _
  | .timeRange startField endField | .dayRangeAcross startField endField => [startField, endField]
  | .anyOf | .allOf => []

/-- The further name of a rule that may be left out: a second field, or the key of a flag. -/
def option : Rule → Value
  | .range _ other => other
  | .expect _ _ flagKey => flagKey
  | _ => .null

def pattern : Rule → Value
  | .moment _ _ pattern => pattern
  | _ => .null

/-- The present of a rule that asks for it. -/
def present? : Rule → Option Value
  | .today _ _ now | .timeOfDay _ _ _ now => some now
  | _ => none

/-- All that a caller has to take care of: names are texts, no date pattern is given, and the
present is a moment that lies well inside of the calendar. -/
structure IsPlain (r : Rule) : Prop where
  fields : ∀ v ∈ r.fields, ∃ name, v = .text name
  option : r.option = .null ∨ ∃ name, r.option = .text name
  pattern : r.pattern = .null
  present : ∀ v ∈ r.present?, ∃ m : DateTime, v = .dateTime m ∧ m.IsInner

theorem IsPlain.exists_name {r : Rule} {field : Value} (hr : r.IsPlain)
    (h : r.fields = [field]) : ∃ name, field = .text name :=
  hr.fields field (h ▸ List.mem_singleton.mpr rfl)

theorem IsPlain.exists_names {r : Rule} {startField endField : Value} (hr : r.IsPlain)
    (h : r.fields = [startField, endField]) :
    (∃ name, startField = .text name) ∧ ∃ name, endField = .text name :=
  ⟨hr.fields startField (h ▸ List.mem_cons_self ..),
    hr.fields endField (h ▸ List.mem_cons_of_mem _ (List.mem_cons_self ..))⟩

/-- A rule that reads no value as a moment and reports none. -/
def IsQuiet : Rule → Prop
  | .text _ _ | .number _ _ | .truth _ _ | .moment _ _ _ | .id _ | .search _ _
  | .dayComparison _ _ | .dayRange _ | .dayRangeAcross _ _ | .timeOfDay _ _ _ _
  | .anyOf | .allOf | .anyOfNamed _ => False
  | _ => True

/-- The value of a bare key, or one that is given instead. -/
def bare (f : Filters) (given field : Value) : Value := (input f given field).toOption.getD .null

theorem bare_text (f : Filters) (given : Value) (name : String) :
    bare f given (.text name) = inputOr f given name := by
  rw [bare, input, resolve_text]
  rfl

/-- The values that a rule reads as moments, each with the time of day that it is moved to. -/
def dates (r : Rule) (f : Filters) : List (Value × Option TimeOfDay) :=
  match r with
  | .moment field given _ => [(bare f given field, none)]
  | .dayRange field =>
      [(operand f field .rangeFrom, some .midnight), (operand f field .rangeTo, some .lastMilli)]
  | .dayComparison field c => [(operand f field c.dayOperator, some c.dayTime)]
  | .dayRangeAcross startField endField =>
      if (f.value dateGate).isFlagSet then
        [(operand f startField .rangeFrom, some .midnight),
          (operand f endField .rangeTo, some .lastMilli)]
      else []
  | _ => []

variable {f : Filters} {name : String} {v : Value} {consumed : List String}

theorem settle_fails {x : Except Error (Option Stage)} {p : Prop} (hx : FailsExactly x p False)
    (hp : p → v.isPresent = true) :
    FailsExactly (settle v x consumed) p (x = .ok none ∧ v.isWritable = false) := by
  by_cases hv : v.isPresent = true
  · rw [settle, if_pos hv]
    cases h : x with
    | error d =>
      obtain ⟨rfl, hlost⟩ := hx.of_error h
      refine ⟨fun e => ?_⟩
      change Except.error _ = .error e ↔ _
      simpa [hlost] using eq_comm
    | ok stage =>
      have hkept : ¬ p := fun hlost => hx.ne_ok hlost _ h
      cases stage with
      | none =>
        change FailsExactly (v.spell.map _) _ _
        exact (v.spell_fails.map _).congr (by simp [hkept]) (by simp)
      | some s => exact .ok _ hkept (by simp)
  · rw [settle, if_neg hv]
    refine .ok _ (fun h => hv (hp h)) ?_
    simp [Value.isWritable_of_not_isPresent hv]

/-- A rule settles a value whenever it converts it without fail. -/
theorem settle_ok_fails (o : Option Stage) :
    FailsExactly (settle v (.ok o) consumed) False (o = none ∧ v.isWritable = false) :=
  (settle_fails (FailsExactly.ok o not_false not_false) False.elim).congr Iff.rfl (by simp)

theorem flagMatch_text (f : Filters) (name : String) (op : Operator) (c : Condition) :
    flagMatch f (.text name) op c =
      .ok (if (operand f (.text name) op).isFlagSet then
          Translation.of (.filter (.single (.text name) c))
            ([operatorKey (.text name) op].filter f.contains)
        else .skip ([operatorKey (.text name) op].filter f.contains)) := by
  simp only [flagMatch, writeKey_text, resolve_operand, bind, Except.bind, matchField_text]
  by_cases hflag : (operand f (.text name) op).isFlagSet = true
  · simp only [hflag]
    rfl
  · simp only [hflag]
    rfl

theorem exists_matchRange (name : String) {other : Value}
    (hother : other = .null ∨ ∃ second, other = .text second) (limits : List (Comparison × Value)) :
    ∃ stage, matchRange (.text name) other limits = .ok stage := by
  unfold matchRange
  split
  · exact ⟨_, matchField_text ..⟩
  · rcases hother with rfl | ⟨second, rfl⟩ <;> exact ⟨_, rfl⟩

theorem exists_rangeMatch (f : Filters) (name : String) {other : Value}
    (hother : other = .null ∨ ∃ second, other = .text second) :
    ∃ t, rangeMatch f (.text name) other = .ok t := by
  simp only [rangeMatch, writeKey_text, bind, Except.bind]
  split
  · exact ⟨_, rfl⟩
  · obtain ⟨stage, hstage⟩ := exists_matchRange name hother
      (rangeLimits (f.value (operatorKey (.text name) .rangeFrom))
        (f.value (operatorKey (.text name) .rangeTo)))
    exact ⟨_, by rw [hstage]; rfl⟩

theorem exists_expectMatch (f : Filters) (name : String) (expected : Value) {flagKey : Value}
    (hflagKey : flagKey = .null ∨ ∃ key, flagKey = .text key) :
    ∃ t, expectMatch f (.text name) expected flagKey = .ok t := by
  have hkey : ∃ key, writeExistenceKey (.text name) flagKey = .ok (.text key) := by
    unfold writeExistenceKey
    split
    · rename_i htruthy
      rcases hflagKey with rfl | ⟨key, rfl⟩
      · cases htruthy
      · exact ⟨key, rfl⟩
    · exact ⟨_, rfl⟩
  obtain ⟨key, hkey⟩ := hkey
  simp only [expectMatch, hkey, resolve_text, bind, Except.bind, matchField_text]
  split <;> exact ⟨_, rfl⟩

theorem exists_timeSide (c : Comparison) (name : String) (v : Value) (millis : TimeOfDay → Nat) :
    ∃ limits, timeSide c (.text name) v millis = .ok limits := by
  unfold timeSide
  split
  · exact ⟨_, rfl⟩
  · cases v.toTime? <;> exact ⟨_, rfl⟩

theorem exists_timeRangeMatch (f : Filters) (z : Zone) (startName endName : String) :
    ∃ t, timeRangeMatch f (.ok z) (.text startName) (.text endName) = .ok t := by
  obtain ⟨lower, hlower⟩ := exists_timeSide .atLeast startName
    (operand f (.text startName) .timeFrom) (·.wholeSecondMillis)
  obtain ⟨upper, hupper⟩ := exists_timeSide .atMost endName
    (operand f (.text endName) .timeTo) (·.wholeSecondMillis + 999)
  simp only [operand] at hlower hupper
  simp only [timeRangeMatch, writeKey_text, hlower, hupper, bind, Except.bind]
  split <;> exact ⟨_, rfl⟩

/-- The values that a rule about a bare key makes nothing of are the ones that it writes. -/
theorem equalityMatch_fails (f : Filters) (name : String) (given : Value)
    {convert : Value → Except Error (Option Value)} {p : Prop} (useless : Value → Bool)
    (hconvert : FailsExactly (convert (inputOr f given name)) p False)
    (hp : p → (inputOr f given name).isPresent = true)
    (huseless : convert (inputOr f given name) = .ok none ↔
      useless (inputOr f given name) = true) :
    FailsExactly (equalityMatch f (.text name) given convert) p
      (∃ v ∈ [bare f given (.text name)].filter useless, v.isWritable = false) := by
  rw [equalityMatch_text]
  refine (settle_fails (hconvert.map _) hp).congr Iff.rfl ?_
  have hmap : (convert (inputOr f given name)).map (fun v => v.map (Stage.equality name)) =
      .ok none ↔ convert (inputOr f given name) = .ok none := by
    cases convert (inputOr f given name) with
    | error e => simp [Except.map]
    | ok o => cases o <;> simp [Except.map]
  simp [hmap, huseless, bare_text]

/-- A conversion that cannot fail only decides whether a value is of use. -/
theorem equalityMatch_ok_fails (f : Filters) (name : String) (given : Value)
    (convert : Value → Option Value) :
    FailsExactly (equalityMatch f (.text name) given fun v => .ok (convert v)) False
      (∃ v ∈ [bare f given (.text name)].filter (fun v => (convert v).isNone),
        v.isWritable = false) :=
  equalityMatch_fails f name given _ (.ok _ not_false not_false) False.elim (by simp)

theorem logicalMatch_fails (f : Filters) (key : String) (query : List Value → Query) :
    FailsExactly (logicalMatch f key query) False
      (∃ v ∈ [f.value key].filter (fun v => (queries? v).isNone), v.isWritable = false) := by
  rw [logicalMatch_eq]
  exact (settle_ok_fails _).congr Iff.rfl (by simp)

section

variable [Host] {z : Zone} {r : Rule}

/-- The values that a rule writes: the ones that it reports, as they are of no use to it, and the
one that it searches for. -/
def written (r : Rule) (f : Filters) : List Value :=
  match r with
  | .text field given => [bare f given field].filter fun v => (textOf v).isNone
  | .number field given => [bare f given field].filter fun v => v.toNumber?.isNone
  | .truth field given => [bare f given field].filter fun v => v.toBool?.isNone
  | .moment field given _ => [bare f given field].filter fun v => v.moment?.isNone
  | .id field => [bare f .null field].filter fun v => !v.isId
  | .search field _ => [bare f .null field]
  | .dayComparison field c => [operand f field c.dayOperator].filter fun v => v.moment?.isNone
  | .timeOfDay _ _ given _ =>
      if (f.value timeGate).isFlagSet then [given].filter fun v => v.toTime?.isNone else []
  | .anyOf => [f.value orKey].filter fun v => (queries? v).isNone
  | .allOf => [f.value andKey].filter fun v => (queries? v).isNone
  | .anyOfNamed field => [operand f field .anyOf].filter fun v => (queries? v).isNone
  | _ => []

/-- One of the values that the rule reads as moments cannot be stored. -/
def Overflows (r : Rule) (z : Zone) (f : Filters) : Prop :=
  ∃ d ∈ r.dates f, d.1.Overflows z d.2

/-- One of the values that the rule writes has no text. -/
def Unwritable (r : Rule) (f : Filters) : Prop := ∃ v ∈ r.written f, v.isWritable = false

theorem exists_idListMatch (hids : Host.ConvertsIds) (f : Filters) (name key : String)
    (given : Value) : ∃ t, idListMatch f (.text name) (.text key) given = .ok t := by
  by_cases hpresent : (inputOr f given key).isPresent = true
  · obtain ⟨oids, hoids⟩ := Value.exists_toIds hids (inputOr f given key).elements
    exact (idListMatch_of_isPresent name hpresent hoids).imp fun _ h => h.1
  · exact (idListMatch_of_not_isPresent name hpresent).imp fun _ h => h.1

theorem idOf_eq (hids : Host.ConvertsIds) (v : Value) :
    ∃ o : Option Value, idOf v = .ok o ∧ (o = none ↔ v.isId = false) := by
  unfold idOf
  by_cases hv : v.isId = true
  · obtain ⟨oid, hoid⟩ := Value.exists_convertId hids hv
    exact ⟨some (.id oid), by rw [if_pos hv, hoid]; rfl, by simp [hv]⟩
  · exact ⟨none, if_neg hv, by simpa using hv⟩

theorem exists_todayMatch (hz : z.IsBounded) (f : Filters) (startName endName : String)
    {now : Value} (hnow : ∃ m : DateTime, now = .dateTime m ∧ m.IsInner) :
    ∃ t, todayMatch f (.ok z) (.text startName) (.text endName) now = .ok t := by
  obtain ⟨m, rfl, hm⟩ := hnow
  obtain ⟨w, u, hw, hu⟩ := Zone.exists_stored hz hm (some .midnight)
  have hread : z.ofDateTime m = .ok w := by rw [Zone.ofDateTime, hw]; rfl
  have hstore : z.toStored w.startOfDay = .ok (.dateTime (.utc u)) := by
    change (inCalendar (z.toUtc? (w.withTime (some .midnight)))).map _ = _
    rw [hu]
    rfl
  simp only [todayMatch, Value.momentOrFail, hread, hstore, bind, Except.bind]
  split <;> exact ⟨_, rfl⟩

theorem timeOfDayMatch_fails (hz : z.IsBounded) (f : Filters) (startName endName : String)
    (given : Value) {now : Value} (hnow : ∃ m : DateTime, now = .dateTime m ∧ m.IsInner) :
    FailsExactly (timeOfDayMatch f (.ok z) (.text startName) (.text endName) given now) False
      (Unwritable (.timeOfDay (.text startName) (.text endName) given now) f) := by
  obtain ⟨m, rfl, hm⟩ := hnow
  obtain ⟨w, u, hw, _⟩ := Zone.exists_stored hz hm none
  have hpresent : z.presentTime (.dateTime m) = .ok w.wall.time := by
    simp only [Zone.presentTime, Value.momentOrFail, Zone.ofDateTime, bind, Except.bind, hw]
    rfl
  unfold timeOfDayMatch Unwritable written
  by_cases hgate : (f.value timeGate).isFlagSet = true
  · simp only [hgate, Bool.not_true, Bool.false_eq_true, if_false, if_true, List.mem_filter,
      List.mem_singleton, bind, Except.bind]
    by_cases hgiven : given.isTruthy = true
    · rw [show timeSought (.ok z) given (.dateTime m) = .ok given.toTime? from if_pos hgiven]
      cases ht : given.toTime? with
      | none =>
        change FailsExactly (given.spell.map _) _ _
        refine (given.spell_fails.map _).congr Iff.rfl ?_
        simp [ht]
      | some t => exact .ok _ not_false (by simp [ht])
    · rw [show timeSought (.ok z) given (.dateTime m) = .ok (some w.wall.time) by
        rw [timeSought, if_neg hgiven]
        simp only [hpresent, bind, Except.bind, pure, Except.pure]]
      refine .ok _ not_false ?_
      simp [Value.isWritable_of_not_isTruthy hgiven]
  · exact .of_exists ⟨_, by simp only [hgate]; rfl⟩ not_false (by simp [hgate])

theorem searchMatch_fails (f : Filters) (name : String) (options : Value) :
    FailsExactly (searchMatch f (.text name) options) False
      (Unwritable (.search (.text name) options) f) := by
  have hwritten : Unwritable (.search (.text name) options) f ↔
      (f.value name).isWritable = false := by
    simp [Unwritable, written, bare_text, inputOr]
  refine FailsExactly.congr ?_ Iff.rfl hwritten.symm
  simp only [searchMatch, resolve_text, bind, Except.bind, inputOr]
  by_cases hv : (f.value name).isPresent = true
  · rw [if_neg (by simp [hv])]
    refine ⟨fun e => ?_⟩
    by_cases hwritable : (f.value name).isWritable = true
    · simp [Value.write, hwritable, matchField_text, pure, Except.pure]
    · simpa [Value.write, hwritable] using eq_comm
  · rw [if_pos (by simpa using hv)]
    exact .ok _ not_false (by simp [Value.isWritable_of_not_isPresent hv])

theorem moment_fails (f : Filters) (z : Zone) (name : String) (given : Value) :
    FailsExactly ((moment (.text name) given .null).translate (.ok z) f)
      ((inputOr f given name).Overflows z none)
      (Unwritable (.moment (.text name) given .null) f) := by
  have hconvert : FailsExactly (momentOf (.ok z) .null (inputOr f given name))
      ((inputOr f given name).Overflows z none) False := by
    rw [momentOf_eq]
    exact Value.limit?_fails ..
  refine equalityMatch_fails f name given (fun v => v.moment?.isNone) hconvert
    Value.isPresent_of_overflows ?_
  simp [momentOf_eq, Value.limit?_eq_none_iff]

theorem dayComparison_fails (f : Filters) (z : Zone) (name : String) (c : Comparison) :
    FailsExactly ((dayComparison (.text name) c).translate (.ok z) f)
      ((operand f (.text name) c.dayOperator).Overflows z (some c.dayTime))
      (Unwritable (.dayComparison (.text name) c) f) := by
  rw [translate_dayComparison, Value.dayLimit?_ok]
  refine (settle_fails ((Value.limit?_fails ..).map _) Value.isPresent_of_overflows).congr
    Iff.rfl ?_
  have hmap (o : Except Error (Option Value)) (stage : Value → Stage) :
      o.map (fun v => v.map stage) = .ok none ↔ o = .ok none := by
    cases o with
    | error e => simp [Except.map]
    | ok v => cases v <;> simp [Except.map]
  simp [hmap, Value.limit?_eq_none_iff, Unwritable, written]

/-- A range of days reports nothing. -/
theorem dayRange_fails (f : Filters) (z : Zone) (name : String) :
    FailsExactly ((dayRange (.text name)).translate (.ok z) f)
      ((operand f (.text name) .rangeFrom).Overflows z (some .midnight) ∨
        (operand f (.text name) .rangeTo).Overflows z (some .lastMilli)) False := by
  rw [translate_dayRange, Value.dayLimit?_ok, Value.dayLimit?_ok]
  exact (Value.limit?_fails ..).bind fun start =>
    (Value.limit?_fails ..).bind_exists fun stop => ⟨_, rfl⟩

theorem dayRangeAcross_fails (hgate : (f.value dateGate).isFlagSet = true) (z : Zone)
    (startName endName : String) :
    FailsExactly ((dayRangeAcross (.text startName) (.text endName)).translate (.ok z) f)
      ((operand f (.text startName) .rangeFrom).Overflows z (some .midnight) ∨
        (operand f (.text endName) .rangeTo).Overflows z (some .lastMilli)) False := by
  rw [translate_dayRangeAcross hgate, Value.dayLimit?_ok, Value.dayLimit?_ok]
  exact (Value.limit?_fails ..).bind fun start =>
    (Value.limit?_fails ..).bind_exists fun stop => ⟨_, rfl⟩

/-- A rule that reads no value as a moment and writes none makes do with any values. -/
theorem exists_translation (hids : Host.ConvertsIds) (hz : z.IsBounded) (hr : r.IsPlain)
    (hquiet : r.IsQuiet) (f : Filters) : ∃ t, r.translate (.ok z) f = .ok t := by
  cases r with
  | notEqual field | comparison field c | among field given | notAmong field given =>
    obtain ⟨name, rfl⟩ := hr.exists_name rfl
    exact ⟨_, by rw [translate, operandMatch_text]⟩
  | notEmpty field | isNull field | notNull field =>
    obtain ⟨name, rfl⟩ := hr.exists_name rfl
    exact ⟨_, flagMatch_text ..⟩
  | range field other =>
    obtain ⟨name, rfl⟩ := hr.exists_name rfl
    exact exists_rangeMatch f name hr.option
  | trueOrFalse field =>
    obtain ⟨name, rfl⟩ := hr.exists_name rfl
    rw [translate]
    simp only [trueOrFalseMatch, writeKey_text, bind, Except.bind, matchField_text]
    split
    · exact ⟨_, rfl⟩
    · split <;> exact ⟨_, rfl⟩
  | existence field =>
    obtain ⟨name, rfl⟩ := hr.exists_name rfl
    rw [translate]
    simp only [existenceMatch, writeKey_text, resolve_operand, bind, Except.bind, matchField_text]
    split
    · exact ⟨_, rfl⟩
    · split <;> exact ⟨_, rfl⟩
  | expect field expected flagKey =>
    obtain ⟨name, rfl⟩ := hr.exists_name rfl
    exact exists_expectMatch f name expected hr.option
  | notDeleted field =>
    obtain ⟨name, rfl⟩ := hr.exists_name rfl
    exact ⟨_, rfl⟩
  | ids field =>
    obtain ⟨name, rfl⟩ := hr.exists_name rfl
    exact exists_idListMatch hids f name name .null
  | idsAmong field given =>
    obtain ⟨name, rfl⟩ := hr.exists_name rfl
    exact exists_idListMatch hids f name _ given
  | today startField endField now =>
    obtain ⟨⟨startName, rfl⟩, endName, rfl⟩ := hr.exists_names rfl
    exact exists_todayMatch hz f startName endName (hr.present now rfl)
  | timeRange startField endField =>
    obtain ⟨⟨startName, rfl⟩, endName, rfl⟩ := hr.exists_names rfl
    exact exists_timeRangeMatch f z startName endName
  | _ => exact absurd hquiet not_false

theorem translate_fails (hids : Host.ConvertsIds) (hz : z.IsBounded) (hr : r.IsPlain)
    (f : Filters) :
    FailsExactly (r.translate (.ok z) f) (r.Overflows z f) (r.Unwritable f) := by
  cases r with
  | text field given =>
    obtain ⟨name, rfl⟩ := hr.exists_name rfl
    exact (equalityMatch_ok_fails f name given textOf).congr (by simp [Overflows, dates]) Iff.rfl
  | number field given =>
    obtain ⟨name, rfl⟩ := hr.exists_name rfl
    exact (equalityMatch_ok_fails f name given fun v => v.toNumber?.map Number.toValue).congr
      (by simp [Overflows, dates]) (by simp [Unwritable, written])
  | truth field given =>
    obtain ⟨name, rfl⟩ := hr.exists_name rfl
    exact (equalityMatch_ok_fails f name given fun v => v.toBool?.map Value.bool).congr
      (by simp [Overflows, dates]) (by simp [Unwritable, written])
  | id field =>
    obtain ⟨name, rfl⟩ := hr.exists_name rfl
    obtain ⟨o, ho, hnone⟩ := idOf_eq hids (inputOr f .null name)
    have hconvert : FailsExactly (idOf (inputOr f .null name)) False False := by
      rw [ho]
      exact .ok _ not_false not_false
    refine (equalityMatch_fails f name .null (fun v => !v.isId) hconvert False.elim
      ?_).congr (by simp [Overflows, dates]) Iff.rfl
    simp [ho, hnone]
  | moment field given pattern =>
    obtain ⟨name, rfl⟩ := hr.exists_name rfl
    have hpattern : pattern = .null := hr.pattern
    subst hpattern
    exact (moment_fails f z name given).congr (by simp [Overflows, dates, bare_text]) Iff.rfl
  | search field options =>
    obtain ⟨name, rfl⟩ := hr.exists_name rfl
    exact (searchMatch_fails f name options).congr (by simp [Overflows, dates]) Iff.rfl
  | dayComparison field c =>
    obtain ⟨name, rfl⟩ := hr.exists_name rfl
    exact (dayComparison_fails f z name c).congr (by simp [Overflows, dates]) Iff.rfl
  | dayRange field =>
    obtain ⟨name, rfl⟩ := hr.exists_name rfl
    exact (dayRange_fails f z name).congr (by simp [Overflows, dates]) (by
      simp [Unwritable, written])
  | dayRangeAcross startField endField =>
    obtain ⟨⟨startName, rfl⟩, endName, rfl⟩ := hr.exists_names rfl
    by_cases hgate : (f.value dateGate).isFlagSet = true
    · exact (dayRangeAcross_fails hgate z startName endName).congr
        (by simp [Overflows, dates, hgate]) (by simp [Unwritable, written])
    · refine .of_exists ⟨.skip ([dateGate].filter f.contains), ?_⟩
        (by simp [Overflows, dates, hgate]) (by simp [Unwritable, written])
      rw [translate, dayRangeAcrossMatch, if_pos (by simpa using hgate)]
      rfl
  | timeOfDay startField endField given now =>
    obtain ⟨⟨startName, rfl⟩, endName, rfl⟩ := hr.exists_names rfl
    exact (timeOfDayMatch_fails hz f startName endName given (hr.present now rfl)).congr
      (by simp [Overflows, dates]) Iff.rfl
  | anyOf | allOf =>
    exact (logicalMatch_fails f _ _).congr (by simp [Overflows, dates]) Iff.rfl
  | anyOfNamed field =>
    obtain ⟨name, rfl⟩ := hr.exists_name rfl
    exact (logicalMatch_fails f _ _).congr (by simp [Overflows, dates]) Iff.rfl
  | _ =>
    exact .of_exists (exists_translation hids hz hr trivial f) (by simp [Overflows, dates])
      (by simp [Unwritable, written])

/-- A plain rule fails exactly when it reads a moment that leaves the calendar, and then with that
failure, or when it has to write a value with an integer that is too long, and then with this one.
It does so on its own in any zone that has a name, and as a step of a builder. -/
theorem fails_iff (hzones : Host.BoundsOffsets) (hids : Host.ConvertsIds) (hr : r.IsPlain)
    (e : Error) :
    (∀ (name : String) (z : Zone) (f : Filters), Zone.resolve name = .ok z →
      (r.translate (Zone.resolve name) f = .error e ↔
        e = .outsideCalendar ∧ r.Overflows z f ∨ e = .tooManyDigits ∧ r.Unwritable f)) ∧
    (∀ (b : Builder) (s : Builder.Step), s.rule? b.settings = some r →
      (b.step s = .error e ↔ e = .outsideCalendar ∧ r.Overflows b.zone b.filters ∨
        e = .tooManyDigits ∧ r.Unwritable b.filters)) := by
  constructor
  · intro name z f hname
    rw [hname]
    exact (translate_fails hids (hzones.isBounded hname) hr f).error_iff e
  · intro b s hs
    rw [b.step_eq_map hs]
    have hbounded := hzones.isBounded b.zone_eq
    exact ((translate_fails hids hbounded hr b.filters).map b.absorb).error_iff e

end

/-- A rule about the day on which something is due. -/
def due : Rule := .moment (.text "due") .null .null

/-- Something is due on the first day of the calendar. -/
def dueFirst : Filters := .ofList [("due", .text "0001-01-01")]

theorem isPlain_due : due.IsPlain :=
  ⟨by simp [due, fields], Or.inl rfl, rfl, by simp [due, present?]⟩

/-- Berlin is ahead of universal time, where its first day begins before the calendar does. -/
theorem due_fails_in_berlin :
    Host.BoundsOffsets ∧ Host.ConvertsIds ∧ due.IsPlain ∧
      Zone.resolve "Europe/Berlin" = .ok .berlin ∧
      due.translate (Zone.resolve "Europe/Berlin") dueFirst = .error .outsideCalendar := by
  have hname : Zone.resolve "Europe/Berlin" = .ok .berlin := rfl
  have hoverflows : due.Overflows .berlin dueFirst := by
    refine ⟨(.text "0001-01-01", none), List.mem_singleton.mpr rfl, ?_⟩
    exact ⟨.naive (.of ⟨0, by decide⟩ .midnight), rfl, Or.inr (by decide)⟩
  refine ⟨Host.boundsOffsets_published, Host.convertsIds_published, isPlain_due, hname, ?_⟩
  exact ((fails_iff Host.boundsOffsets_published Host.convertsIds_published isPlain_due
    .outsideCalendar).1 _ _ _ hname).mpr (Or.inl ⟨rfl, hoverflows⟩)

/-- Not every value of a dictionary can be translated or passed over. -/
theorem not_forall_translation :
    ¬ ∀ (r : Rule) (name : String) (z : Zone) (f : Filters), r.IsPlain →
      Zone.resolve name = .ok z → ∃ t, r.translate (Zone.resolve name) f = .ok t := by
  intro h
  obtain ⟨t, ht⟩ := h due "Europe/Berlin" .berlin dueFirst isPlain_due rfl
  have hfails : due.translate (Zone.resolve "Europe/Berlin") dueFirst =
      .error .outsideCalendar := rfl
  rw [hfails] at ht
  exact absurd ht (by simp)

end Rule

end FilterPipeline
