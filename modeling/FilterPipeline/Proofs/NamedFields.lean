import FilterPipeline.Proofs.Locality
import FilterPipeline.Proofs.StoredMoment
import Mathlib.Algebra.Group.Int.Defs

/-!
Rules whose fields are named by texts, as equations. Their keys can always be written, so that
what such a rule comes to is decided by the values it finds. Most rules work on one value: they
settle it by a stage, or else report it, which fails if the value cannot be written. A value that
stands for a moment is moved to a time of its day, if one is asked for, and stored in universal
time.
-/

namespace FilterPipeline

namespace Value

theorem eq_of_not_isPresent {v : Value} (h : ¬ v.isPresent = true) :
    v = .null ∨ v = .text "" := by
  cases v with
  | null => exact Or.inl rfl
  | text s =>
    have hs : s = "" := by simpa [isPresent] using h
    exact Or.inr (congrArg Value.text hs)
  | _ => exact absurd rfl h

theorem isWritable_of_not_isPresent {v : Value} (h : ¬ v.isPresent = true) :
    v.isWritable = true := by
  rcases eq_of_not_isPresent h with rfl | rfl <;> rfl

/-- An integer of too many digits to be written. -/
def longInteger : Value := .int (10 ^ 5000)

theorem isWritable_longInteger : longInteger.isWritable = false := by decide +kernel

section

variable [Host] {α : Type}

/-- The moment that a value stands for by the ISO format. -/
def moment? : Value → Option DateTime
  | .dateTime m => some m
  | .date d => some (.naive (.of d .midnight))
  | .text s => Iso.read? Host.keepsShortOffsets (Text.strip s.toList)
  | _ => none

/-- What is stored for a value, if it stands for a moment. -/
def limit? (v : Value) (z : Zone) (t : Option TimeOfDay) : Except Error (Option Value) :=
  match v.moment? with
  | none => .ok none
  | some m => (inCalendar (z.stored? m t)).map fun u => some (.dateTime (.utc u))

theorem readDateTime_null (v : Value) : v.readDateTime .null = .ok v.moment? := by
  cases v <;> rfl

theorem moment?_of_not_isPresent {v : Value} (h : ¬ v.isPresent = true) : v.moment? = none := by
  rcases eq_of_not_isPresent h with rfl | rfl <;> rfl

theorem limit?_of_not_isPresent {v : Value} (h : ¬ v.isPresent = true) (z : Zone)
    (t : Option TimeOfDay) : v.limit? z t = .ok none := by
  rw [limit?, moment?_of_not_isPresent h]

theorem limit?_eq_none_iff {v : Value} {z : Zone} {t : Option TimeOfDay} :
    v.limit? z t = .ok none ↔ v.moment? = none := by
  unfold limit?
  cases v.moment? with
  | none => simp
  | some m => cases h : inCalendar (z.stored? m t) <;> simp [h, Except.map]

/-- A rule that reads a value and goes on with what is stored for it goes on with its limit. -/
theorem readZoned_bind (v : Value) (z : Zone) (t : Option TimeOfDay) (useless : Except Error α)
    (use : Value → Except Error α) :
    (v.readZoned z .null >>= fun reading => match reading with
      | none => useless
      | some m => z.toStored (m.withTime t) >>= use) =
    v.limit? z t >>= fun limit => match limit with
      | none => useless
      | some u => use u := by
  rw [readZoned, readDateTime_null, limit?]
  cases v.moment? with
  | none => rfl
  | some m =>
    simp only [bind, Except.bind, Zone.ofDateTime, Zone.stored?, Zone.toStored]
    cases z.ofDateTime? m with
    | none => rfl
    | some w =>
      change ((inCalendar (z.toUtc? (w.withTime t))).map _ >>= use) =
        ((inCalendar (z.toUtc? (w.withTime t))).map _ >>= _)
      cases z.toUtc? (w.withTime t) <;> rfl

end

end Value

/-- The time of day that a comparison with a whole day is about. -/
def Comparison.dayTime : Comparison → TimeOfDay
  | .greater | .atMost => .lastMilli
  | .less | .atLeast => .midnight

theorem Comparison.dayBound_eq (c : Comparison) (m : Zoned) :
    c.dayBound m = m.withTime (some c.dayTime) := by
  cases c <;> rfl

section

variable [Host] {α : Type}

/-- The end of the day of a value that a comparison is about, as it is stored. The zone may be
unknown if there is no value. -/
def Value.dayLimit? (v : Value) (zone : Except Error Zone) (c : Comparison) :
    Except Error (Option Value) :=
  if v.isPresent then zone >>= fun z => v.limit? z (some c.dayTime) else .ok none

theorem Value.dayLimit?_ok (v : Value) (z : Zone) (c : Comparison) :
    v.dayLimit? (.ok z) c = v.limit? z (some c.dayTime) := by
  unfold dayLimit?
  by_cases hv : v.isPresent = true
  · rw [if_pos hv]
    rfl
  · rw [if_neg hv, limit?_of_not_isPresent hv]

theorem Value.dayLimit?_of_not_isPresent {v : Value} (h : ¬ v.isPresent = true)
    (zone : Except Error Zone) (c : Comparison) : v.dayLimit? zone c = .ok none := by
  rw [dayLimit?, if_neg h]

/-- A rule that goes on with the bound made of its value goes on with that. -/
theorem Value.dayLimit?_bind {v : Value} (hv : v.isPresent = true) (zone : Except Error Zone)
    (c : Comparison) (useless : Except Error α) (use : Value → Except Error α) :
    (zone >>= fun z => v.readZoned z .null >>= fun reading => match reading with
      | none => useless
      | some m => z.toStored (c.dayBound m) >>= use) =
    v.dayLimit? zone c >>= fun bound => match bound with
      | none => useless
      | some u => use u := by
  rw [dayLimit?, if_pos hv]
  cases zone with
  | error e => rfl
  | ok z =>
    simp only [c.dayBound_eq]
    exact v.readZoned_bind z (some c.dayTime) useless use

/-- One side of a range makes a limit of its bound. -/
theorem Value.dayLimit?_side (v : Value) (zone : Except Error Zone) (c : Comparison)
    (limit : Value → α) :
    (if (!v.isPresent) = true then .ok [] else
      zone >>= fun z => v.readZoned z .null >>= fun reading => match reading with
        | none => .ok []
        | some m => z.toStored (c.dayBound m) >>= fun u => .ok [limit u]) =
    (v.dayLimit? zone c).map fun bound => (bound.map limit).toList := by
  by_cases hv : v.isPresent = true
  · rw [if_neg (by simp [hv]), dayLimit?_bind hv]
    cases v.dayLimit? zone c with
    | error e => rfl
    | ok bound => cases bound <;> rfl
  · rw [if_pos (by simpa using hv), dayLimit?_of_not_isPresent hv]
    rfl

end

namespace Rule

variable {f : Filters} {name : String}

/-- The value that a rule about a named field works on. -/
def inputOr (f : Filters) (given : Value) (name : String) : Value :=
  match given with
  | .null => f.value name
  | v => v

/-- The stage that a rule comes to, if it comes to one. -/
def stage? [Host] (r : Rule) (zone : Except Error Zone) (f : Filters) :
    Except Error (Option Stage) :=
  (r.translate zone f).map fun t => t.stages.head?

/-- What a rule comes to that works on one value: a stage, or a report of the value if that is
set. -/
def settle (v : Value) (x : Except Error (Option Stage)) (consumed : List String) :
    Except Error Translation :=
  if v.isPresent then
    x >>= fun stage => match stage with
      | some s => .ok (.of s consumed)
      | none => v.spell.map fun _ => .skip consumed
  else .ok (.skip consumed)

/-- What a rule has settled a value by. -/
theorem settle_eq_ok {v : Value} {x : Except Error (Option Stage)} {consumed : List String}
    {t : Translation} (h : settle v x consumed = .ok t)
    (hx : ¬ v.isPresent = true → x = .ok none) :
    ∃ stage, x = .ok stage ∧ t.stages = stage.toList := by
  unfold settle at h
  split at h
  · obtain ⟨stage, hstage, hresult⟩ := exists_of_bind_eq_ok h
    refine ⟨stage, hstage, ?_⟩
    cases stage with
    | none =>
      obtain ⟨_, -, rfl⟩ := exists_of_map_eq_ok hresult
      rfl
    | some s =>
      rw [← Except.ok.inj hresult]
      rfl
  · rename_i hpresent
    refine ⟨none, hx hpresent, ?_⟩
    rw [← Except.ok.inj h]
    rfl

theorem writeKey_text (name : String) (op : Operator) :
    writeKey (.text name) op = .ok (operatorKey (.text name) op) := rfl

theorem resolve_text (f : Filters) (given : Value) (key : String) :
    resolve f (.text key) given =
      .ok (inputOr f given key, (keyUnless given (.text key)).filter f.contains) := by
  cases given <;> rfl

theorem resolve_operand (f : Filters) (field : Value) (op : Operator) :
    resolve f (.text (operatorKey field op)) .null =
      .ok (operand f field op, [operatorKey field op].filter f.contains) := rfl

theorem matchField_text (name : String) (c : Condition) :
    matchField (.text name) c = .ok (.filter (.single (.text name) c)) := rfl

theorem report_text (key : String) (v : Value) :
    report (.text key) v = v.spell.map fun _ => () := by
  unfold report
  cases v.spell <;> rfl

theorem equalityMatch_text (f : Filters) (name : String) (given : Value)
    (convert : Value → Except Error (Option Value)) :
    equalityMatch f (.text name) given convert = settle (inputOr f given name)
      ((convert (inputOr f given name)).map fun v => v.map (Stage.equality name))
      ((keyUnless given (.text name)).filter f.contains) := by
  unfold equalityMatch settle
  rw [resolve_text]
  by_cases hv : (inputOr f given name).isPresent = true
  · simp only [bind, Except.bind, hv, Bool.not_true, Bool.false_eq_true, if_false, if_true]
    cases convert (inputOr f given name) with
    | error e => rfl
    | ok converted =>
      cases converted with
      | none =>
        simp only [report_text, Except.map]
        cases (inputOr f given name).spell <;> rfl
      | some v => rfl
  · simp only [bind, Except.bind, hv, Bool.not_false, if_true]
    rfl

theorem operandMatch_text (f : Filters) (name : String) (given : Value) (op : Operator)
    (condition : Value → Condition) :
    operandMatch f (.text name) given op condition =
      let v := inputOr f given (operatorKey (.text name) op)
      let consumed := (keyUnless given (.text (operatorKey (.text name) op))).filter f.contains
      .ok (if v.isPresent then .of (.filter (.single (.text name) (condition v))) consumed
        else .skip consumed) := by
  simp only [operandMatch, writeKey_text, resolve_text, bind, Except.bind, Bool.not_eq_true']
  by_cases hv : (inputOr f given (operatorKey (.text name) op)).isPresent = true
  · simp only [hv, Bool.true_eq_false, if_false, if_true]
    rfl
  · simp only [hv, if_true]
    rfl

/-- Queries, if a value is a list of them that is not empty. -/
def queries? : Value → Option (List Value)
  | .list (q :: qs) => some (q :: qs)
  | _ => none

theorem logicalMatch_eq (f : Filters) (key : String) (query : List Value → Query) :
    logicalMatch f key query = settle (f.value key)
      (.ok ((queries? (f.value key)).map fun qs => .filter (query qs)))
      ([key].filter f.contains) := by
  unfold logicalMatch settle
  have hread : inputOr f .null key = f.value key := rfl
  have hkeys : keyUnless .null (.text key) = [key] := rfl
  simp only [resolve_text, hread, hkeys, bind, Except.bind]
  cases f.value key with
  | null => rfl
  | list vs =>
    cases vs with
    | nil => rfl
    | cons q qs => rfl
  | text s =>
    by_cases hs : s = ""
    · subst hs
      rfl
    · simp only [report_text, Value.isPresent, bne_iff_ne, ne_eq, hs, not_false_eq_true, if_true]
      rfl
  | _ =>
    simp only [report_text, Value.isPresent, if_true]
    cases Value.spell _ <;> rfl

section

variable [Host] {z : Zone}

theorem momentOf_eq (z : Zone) (v : Value) : momentOf (.ok z) .null v = v.limit? z none := by
  refine (v.readZoned_bind z none (.ok none) fun u => .ok (some u)).trans ?_
  cases v.limit? z none with
  | error e => rfl
  | ok limit => cases limit <;> rfl

/-- The bound of a comparison with a day is settled for whatever field, if that can be written. -/
theorem dayComparison_eq (f : Filters) (zone : Except Error Zone) (field : Value)
    (c : Comparison) :
    (dayComparison field c).translate zone f =
      if field.isWritable then
        settle (operand f field c.dayOperator)
          ((operand f field c.dayOperator).dayLimit? zone c >>= fun bound =>
            match bound with
            | none => .ok none
            | some u => (matchField field (.bounds [(c, u)])).map some)
          ([operatorKey field c.dayOperator].filter f.contains)
      else .error .tooManyDigits := by
  rw [translate]
  unfold dayComparisonMatch settle
  rw [writeKey_bind]
  congr 1
  simp only [resolve_operand]
  by_cases hv : (operand f field c.dayOperator).isPresent = true
  · rw [if_pos hv]
    change (if (!(operand f field c.dayOperator).isPresent) = true then _ else _) = _
    rw [if_neg (by simp [hv])]
    refine (Value.dayLimit?_bind hv zone c _ _).trans ?_
    cases (operand f field c.dayOperator).dayLimit? zone c with
    | error e => rfl
    | ok bound =>
      cases bound with
      | none =>
        change (report _ _ >>= fun _ => _) = Except.map _ _
        rw [report_text]
        cases (operand f field c.dayOperator).spell <;> rfl
      | some u =>
        change (matchField field (.bounds [(c, u)]) >>= _) = (matchField field _).map some >>= _
        cases matchField field (.bounds [(c, u)]) <;> rfl
  · rw [if_neg hv]
    change (if (!(operand f field c.dayOperator).isPresent) = true then _ else _) = _
    rw [if_pos (by simpa using hv)]
    rfl

theorem translate_dayComparison (f : Filters) (zone : Except Error Zone) (name : String)
    (c : Comparison) :
    (dayComparison (.text name) c).translate zone f =
      settle (operand f (.text name) c.dayOperator)
        (((operand f (.text name) c.dayOperator).dayLimit? zone c).map fun v =>
          v.map fun u => .filter (.single (.text name) (.bounds [(c, u)])))
        ([operatorKey (.text name) c.dayOperator].filter f.contains) := by
  rw [dayComparison_eq, if_pos (show (Value.text name).isWritable = true from rfl)]
  congr 1
  cases (operand f (.text name) c.dayOperator).dayLimit? zone c with
  | error e => rfl
  | ok bound => cases bound <;> rfl

/-- The bounds of a range on the sides on which it has one. -/
def dayBounds (start stop : Option Value) : List (Comparison × Value) :=
  (start.map (Comparison.atLeast, ·)).toList ++ (stop.map (Comparison.atMost, ·)).toList

theorem dayRangeSide_eq (zone : Except Error Zone) (c : Comparison) (v : Value) :
    dayRangeSide zone c v = (v.dayLimit? zone c).map fun bound => (bound.map (c, ·)).toList :=
  v.dayLimit?_side zone c (c, ·)

theorem dayAcrossSide_eq (zone : Except Error Zone) (c : Comparison) (name : String) (v : Value) :
    dayAcrossSide zone c (.text name) v =
      (v.dayLimit? zone c).map fun bound => (bound.map (Limit.mk c (.field name) ·)).toList :=
  v.dayLimit?_side zone c (Limit.mk c (.field name) ·)

/-- A range of days is left out if it has no bound. -/
theorem dayRange_eq (f : Filters) (zone : Except Error Zone) (field : Value) :
    (dayRange field).translate zone f =
      if field.isWritable then do
        let start ← (operand f field .rangeFrom).dayLimit? zone .atLeast
        let stop ← (operand f field .rangeTo).dayLimit? zone .atMost
        let consumed := [operatorKey field .rangeFrom, operatorKey field .rangeTo].filter f.contains
        if dayBounds start stop = [] then return .skip consumed
        else return .of (← matchField field (.bounds (dayBounds start stop))) consumed
      else .error .tooManyDigits := by
  rw [translate]
  unfold dayRangeMatch
  rw [writeKey_bind]
  by_cases hfield : field.isWritable = true
  · rw [if_pos hfield, if_pos hfield, writeKey_bind, if_pos hfield]
    simp only [dayRangeSide_eq]
    change (((operand f field .rangeFrom).dayLimit? zone .atLeast).map _ >>= fun _ =>
      ((operand f field .rangeTo).dayLimit? zone .atMost).map _ >>= fun _ => _) = _
    cases (operand f field .rangeFrom).dayLimit? zone .atLeast with
    | error e => rfl
    | ok start =>
      cases (operand f field .rangeTo).dayLimit? zone .atMost with
      | error e => rfl
      | ok stop => cases start <;> cases stop <;> rfl
  · rw [if_neg hfield, if_neg hfield]

theorem translate_dayRange (f : Filters) (zone : Except Error Zone) (name : String) :
    (dayRange (.text name)).translate zone f = do
      let start ← (operand f (.text name) .rangeFrom).dayLimit? zone .atLeast
      let stop ← (operand f (.text name) .rangeTo).dayLimit? zone .atMost
      let consumed := [operatorKey (.text name) .rangeFrom,
        operatorKey (.text name) .rangeTo].filter f.contains
      return if dayBounds start stop = [] then Translation.skip consumed
        else .of (.filter (.single (.text name) (.bounds (dayBounds start stop)))) consumed := by
  rw [dayRange_eq, if_pos (show (Value.text name).isWritable = true from rfl)]
  congr 1
  funext start
  congr 1
  funext stop
  dsimp only
  split <;> rfl

/-- The limits of a range across two fields on the sides on which it has one. -/
def dayLimits (startName endName : String) (start stop : Option Value) : List Limit :=
  (start.map (Limit.mk .atLeast (.field startName) ·)).toList ++
    (stop.map (Limit.mk .atMost (.field endName) ·)).toList

theorem translate_dayRangeAcross (hgate : (f.value dateGate).isFlagSet = true)
    (zone : Except Error Zone) (startName endName : String) :
    (dayRangeAcross (.text startName) (.text endName)).translate zone f = do
      let start ← (operand f (.text startName) .rangeFrom).dayLimit? zone .atLeast
      let stop ← (operand f (.text endName) .rangeTo).dayLimit? zone .atMost
      let consumed := [dateGate].filter f.contains ++ [operatorKey (.text startName) .rangeFrom,
        operatorKey (.text endName) .rangeTo].filter f.contains
      return if dayLimits startName endName start stop = [] then Translation.skip consumed
        else .of (.filter (.expression (dayLimits startName endName start stop))) consumed := by
  rw [translate]
  unfold dayRangeAcrossMatch
  simp only [hgate, writeKey_text, dayAcrossSide_eq, Bool.not_true, Bool.false_eq_true, if_false]
  change (((operand f (.text startName) .rangeFrom).dayLimit? zone .atLeast).map _ >>= fun _ =>
    ((operand f (.text endName) .rangeTo).dayLimit? zone .atMost).map _ >>= fun _ => _) = _
  cases (operand f (.text startName) .rangeFrom).dayLimit? zone .atLeast with
  | error e => rfl
  | ok start =>
    cases (operand f (.text endName) .rangeTo).dayLimit? zone .atMost with
    | error e => rfl
    | ok stop => cases start <;> cases stop <;> rfl

end

end Rule

end FilterPipeline
