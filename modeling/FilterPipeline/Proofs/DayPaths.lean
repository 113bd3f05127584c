import FilterPipeline.Proofs.DaySelection

/-!
The ways to one end of a day. A range of days, a comparison with a day, a range across two fields
and the question about today all take the midnight or the last millisecond of the day of a value,
each on a path of its own. They come to the same bound, or to none, or fail alike, in every zone,
an unknown one included. Where both ends are asked for, each is what it is alone. The paths part
where a comparison has to report a value that cannot be written, and for fields that are not named
by texts.
-/

namespace FilterPipeline

namespace Key

/-- A key ends as the suffix of its operator does. -/
theorem getLast?_format (field : String) {op : Operator} (hop : op.suffix ≠ "") :
    (format field op).toList.getLast? = op.suffix.toList.getLast? := by
  have hsuffix : op.suffix.toList ≠ [] := fun h => hop (String.toList_eq_nil_iff.mp h)
  have hformat : format field op = field ++ "-" ++ op.suffix := by
    cases op <;> first | rfl | exact absurd rfl hop
  rw [hformat, String.toList_append, List.getLast?_append_of_ne_nil _ hsuffix]

end Key

/-- The comparison that includes the day and is about the same end of it. -/
def Comparison.inclusive : Comparison → Comparison
  | .greater | .atMost => .atMost
  | .less | .atLeast => .atLeast

namespace Rule

/-- A stage with one bound of a field. -/
def boundStage (name : String) (c : Comparison) (bound : Value) : Stage :=
  .filter (.single (.text name) (.bounds [(c, bound)]))

/-- A stage that compares a field with a bound inside of an expression. -/
def limitStage (name : String) (c : Comparison) (bound : Value) : Stage :=
  .filter (.expression [⟨c, .field name, bound⟩])

/-- The operators that give the bounds of a range. -/
def IsRangeBound (op : Operator) : Prop := op = .rangeFrom ∨ op = .rangeTo

theorem IsRangeBound.suffix_ne {op : Operator} (hop : IsRangeBound op) : op.suffix ≠ "" := by
  rcases hop with rfl | rfl <;> decide

theorem range_ne_dateGate (field : Value) {op : Operator} (hop : IsRangeBound op) :
    operatorKey field op ≠ dateGate := by
  intro h
  have hlast := Key.getLast?_format (String.ofList field.plainText) hop.suffix_ne
  rw [show Key.format _ op = dateGate from h] at hlast
  rcases hop with rfl | rfl <;> exact absurd hlast (by decide)

theorem rangeFrom_ne_rangeTo (a b : Value) : operatorKey a .rangeFrom ≠ operatorKey b .rangeTo := by
  intro h
  have hfrom := Key.getLast?_format (String.ofList a.plainText)
    (IsRangeBound.suffix_ne (.inl rfl))
  have hto := Key.getLast?_format (String.ofList b.plainText) (IsRangeBound.suffix_ne (.inr rfl))
  rw [show Key.format _ .rangeFrom = Key.format _ .rangeTo from h, hto] at hfrom
  exact absurd hfrom (by decide)

/-- A dictionary with the key of a field and an operator alone. -/
def alone (name : String) (op : Operator) (v : Value) : Filters :=
  .ofList [(operatorKey (.text name) op, v)]

/-- A dictionary with that key and the flag for dates. -/
def flagged (flag : Value) (name : String) (op : Operator) (v : Value) : Filters :=
  .ofList [(dateGate, flag), (operatorKey (.text name) op, v)]

theorem operand_alone (name : String) (op : Operator) (v field : Value) (p : Operator) :
    operand (alone name op v) field p =
      if operatorKey field p = operatorKey (.text name) op then v else .null :=
  Filters.empty.value_insert ..

theorem value_flagged (flag : Value) (name : String) (op : Operator) (v : Value) (key : String) :
    (flagged flag name op v).value key = if key = operatorKey (.text name) op then v
      else if key = dateGate then flag else .null := by
  have hinner : (Filters.empty.insert dateGate flag).value key =
      if key = dateGate then flag else .null := Filters.empty.value_insert ..
  rw [← hinner]
  exact (Filters.empty.insert dateGate flag).value_insert ..

theorem gate_flagged {op : Operator} (hop : IsRangeBound op) (flag : Value) (name : String)
    (v : Value) : (flagged flag name op v).value dateGate = flag := by
  rw [value_flagged, if_neg (range_ne_dateGate _ hop).symm, if_pos rfl]

theorem operand_flagged {p : Operator} (hp : IsRangeBound p) (flag : Value) (name : String)
    (op : Operator) (v field : Value) :
    operand (flagged flag name op v) field p =
      if operatorKey field p = operatorKey (.text name) op then v else .null := by
  rw [operand, value_flagged, if_neg (range_ne_dateGate field hp)]

/-- The calls that ask for one end of the day of a value, with the stage that each of them makes
of a bound: one side of a range of days, a comparison with a day, and one side of a range across
two fields whose flag is set. -/
inductive DayCall (name : String) (v : Value) :
    Comparison → Rule → Filters → (Value → Stage) → Prop where
  | rangeFrom : DayCall name v .atLeast (.dayRange (.text name)) (alone name .rangeFrom v)
      (boundStage name .atLeast)
  | rangeTo : DayCall name v .atMost (.dayRange (.text name)) (alone name .rangeTo v)
      (boundStage name .atMost)
  | comparison (c : Comparison) : DayCall name v c.inclusive (.dayComparison (.text name) c)
      (alone name c.dayOperator v) (boundStage name c)
  | acrossFrom {flag : Value} (hflag : flag.isFlagSet = true) (endName : String) :
      DayCall name v .atLeast (.dayRangeAcross (.text name) (.text endName))
        (flagged flag name .rangeFrom v) (limitStage name .atLeast)
  | acrossTo {flag : Value} (hflag : flag.isFlagSet = true) (startName : String) :
      DayCall name v .atMost (.dayRangeAcross (.text startName) (.text name))
        (flagged flag name .rangeTo v) (limitStage name .atMost)

/-- A rule with a side below and one above comes to one stage, if it has a limit on any side. -/
theorem stages_sides {α : Type} (below above : Except Error (Option Value))
    (limits : Option Value → Option Value → List α) (stage : List α → Stage)
    (consumed : List String) :
    (do
      let lower ← below
      let upper ← above
      return if limits lower upper = [] then Translation.skip consumed
        else .of (stage (limits lower upper)) consumed).map Translation.stages = do
      let lower ← below
      let upper ← above
      return if limits lower upper = [] then [] else [stage (limits lower upper)] := by
  cases below with
  | error e => rfl
  | ok lower =>
    cases above with
    | error e => rfl
    | ok upper =>
      simp only [bind, Except.bind, pure, Except.pure, Except.map]
      split <;> rfl

section

variable [Host] {zone : Except Error Zone} {name : String} {v : Value} {c : Comparison}
  {f : Filters}

theorem dayLimit?_inclusive (v : Value) (zone : Except Error Zone) (c : Comparison) :
    v.dayLimit? zone c.inclusive = v.dayLimit? zone c := by
  cases c <;> rfl

/-- What is stored as a bound is universal time. -/
theorem exists_utc_of_dayLimit? {bound : Value} (h : v.dayLimit? zone c = .ok (some bound)) :
    ∃ u, bound = .dateTime (.utc u) := by
  unfold Value.dayLimit? at h
  split at h
  · cases zone with
    | error e => cases h
    | ok z =>
      have hlimit : v.limit? z (some c.dayTime) = .ok (some bound) := h
      rcases Value.limit?_eq_ok hlimit with ⟨_, hnone⟩ | ⟨_, _, u, _, hbound, _⟩
      · exact absurd hnone (Option.some_ne_none _)
      · exact ⟨u, Option.some.inj hbound⟩
  · cases h

/-- A value that gives no bound stands for no moment. -/
theorem moment?_eq_none_of_dayLimit? (h : v.dayLimit? zone c = .ok none) : v.moment? = none := by
  by_cases hv : v.isPresent = true
  · rw [Value.dayLimit?, if_pos hv] at h
    cases zone with
    | error e => cases h
    | ok z => exact Value.limit?_eq_none_iff.mp h
  · exact Value.moment?_of_not_isPresent hv

theorem stages_dayComparison (hv : v.moment? ≠ none ∨ v.isWritable = true)
    (hoperand : operand f (.text name) c.dayOperator = v) (zone : Except Error Zone) :
    ((dayComparison (.text name) c).translate zone f).map Translation.stages =
      (v.dayLimit? zone c).map fun bound => (bound.map (boundStage name c)).toList := by
  rw [translate_dayComparison, hoperand, settle]
  by_cases hpresent : v.isPresent = true
  · rw [if_pos hpresent]
    cases hlimit : v.dayLimit? zone c with
    | error e => rfl
    | ok bound =>
      cases bound with
      | some u => rfl
      | none =>
        -- Here the value is reported, which takes that it can be written.
        have hwritable := hv.resolve_left (not_not_intro (moment?_eq_none_of_dayLimit? hlimit))
        change (v.spell.map _).map _ = _
        rw [Value.spell, if_pos hwritable]
        rfl
  · rw [if_neg hpresent, Value.dayLimit?_of_not_isPresent hpresent]
    rfl

/-- A comparison with a day fails for a value that is of no use and cannot be written. -/
theorem dayComparison_of_not_isWritable {z : Zone} (hpresent : v.isPresent = true)
    (hmoment : v.moment? = none) (hwritable : v.isWritable = false)
    (hoperand : operand f (.text name) c.dayOperator = v) :
    (dayComparison (.text name) c).translate (.ok z) f = .error .tooManyDigits := by
  rw [translate_dayComparison, hoperand, settle, if_pos hpresent, Value.dayLimit?_ok,
    Value.limit?_eq_none_iff.mpr hmoment]
  change v.spell.map _ = _
  rw [Value.spell, if_neg (by simp [hwritable])]
  rfl

theorem stages_dayRange (f : Filters) (zone : Except Error Zone) (name : String) :
    ((dayRange (.text name)).translate zone f).map Translation.stages = do
      let lower ← (operand f (.text name) .rangeFrom).dayLimit? zone .atLeast
      let upper ← (operand f (.text name) .rangeTo).dayLimit? zone .atMost
      return if dayBounds lower upper = [] then []
        else [.filter (.single (.text name) (.bounds (dayBounds lower upper)))] := by
  rw [translate_dayRange]
  exact stages_sides _ _ dayBounds (fun bounds => .filter (.single (.text name) (.bounds bounds))) _

theorem stages_dayRangeAcross (hgate : (f.value dateGate).isFlagSet = true)
    (zone : Except Error Zone) (startName endName : String) :
    ((dayRangeAcross (.text startName) (.text endName)).translate zone f).map
        Translation.stages = do
      let lower ← (operand f (.text startName) .rangeFrom).dayLimit? zone .atLeast
      let upper ← (operand f (.text endName) .rangeTo).dayLimit? zone .atMost
      return if dayLimits startName endName lower upper = [] then []
        else [.filter (.expression (dayLimits startName endName lower upper))] := by
  rw [translate_dayRangeAcross hgate]
  exact stages_sides _ _ (dayLimits startName endName)
    (fun limits => .filter (.expression limits)) _

theorem stages_today (hgate : (f.value dateGate).isFlagSet = true) (zone : Except Error Zone)
    (startName endName : String) (m : DateTime) :
    ((today (.text startName) (.text endName) (.dateTime m)).translate zone f).map
        Translation.stages =
      ((Value.dateTime m).dayLimit? zone .atLeast).map fun bound => (bound.map fun u =>
        Stage.filter (.expression
          [⟨.atMost, .field startName, u⟩, ⟨.atLeast, .field endName, u⟩])).toList := by
  rw [translate]
  unfold todayMatch
  simp only [hgate, Bool.not_true, Bool.false_eq_true, if_false]
  cases zone with
  | error e => rfl
  | ok z =>
    rw [Value.dayLimit?_ok, Value.limit?, Value.moment?]
    simp only [bind, Except.bind, Value.momentOrFail, Zone.ofDateTime, Zone.stored?]
    cases z.ofDateTime? m with
    | none => rfl
    | some w =>
      change (((inCalendar (z.toUtc? w.startOfDay)).map _ >>= fun _ => _).map _) =
        ((inCalendar (z.toUtc? w.startOfDay)).map _).map _
      cases z.toUtc? w.startOfDay <;> rfl

/-- All these calls come down to the one bound. -/
theorem DayCall.stages_eq {r : Rule} {stage : Value → Stage} (h : DayCall name v c r f stage)
    (hv : v.moment? ≠ none ∨ v.isWritable = true) (zone : Except Error Zone) :
    (r.translate zone f).map Translation.stages =
      (v.dayLimit? zone c).map fun bound => (bound.map stage).toList := by
  have hnothing (c : Comparison) : Value.null.dayLimit? zone c = .ok none := rfl
  -- In each case the dictionary has no key for the other side, so that nothing is read there.
  cases h with
  | rangeFrom =>
    rw [stages_dayRange, operand_alone, if_pos rfl, operand_alone,
      if_neg (rangeFrom_ne_rangeTo _ _).symm, hnothing]
    cases v.dayLimit? zone .atLeast with
    | error e => rfl
    | ok bound => cases bound <;> rfl
  | rangeTo =>
    rw [stages_dayRange, operand_alone, if_neg (rangeFrom_ne_rangeTo _ _), operand_alone,
      if_pos rfl, hnothing]
    cases v.dayLimit? zone .atMost with
    | error e => rfl
    | ok bound => cases bound <;> rfl
  | comparison c =>
    rw [dayLimit?_inclusive]
    exact stages_dayComparison hv (by rw [operand_alone, if_pos rfl]) zone
  | acrossFrom hflag endName =>
    rw [stages_dayRangeAcross (by rwa [gate_flagged (Or.inl rfl)]), operand_flagged (Or.inl rfl),
      if_pos rfl, operand_flagged (Or.inr rfl), if_neg (rangeFrom_ne_rangeTo _ _).symm, hnothing]
    cases v.dayLimit? zone .atLeast with
    | error e => rfl
    | ok bound => cases bound <;> rfl
  | acrossTo hflag startName =>
    rw [stages_dayRangeAcross (by rwa [gate_flagged (Or.inr rfl)]), operand_flagged (Or.inl rfl),
      if_neg (rangeFrom_ne_rangeTo _ _), operand_flagged (Or.inr rfl), if_pos rfl, hnothing]
    cases v.dayLimit? zone .atMost with
    | error e => rfl
    | ok bound => cases bound <;> rfl

/-- All calls about one end of the day of a value fail alike, or add no stage, or add their stage
with the same moment in universal time. -/
inductive CallsAgree (zone : Except Error Zone) (name : String) (v : Value) (c : Comparison) :
    Except Error (Option Value) → Prop where
  | failure {e : Error}
      (h : ∀ r f stage, DayCall name v c r f stage → r.translate zone f = .error e) :
      CallsAgree zone name v c (.error e)
  | nothing
      (h : ∀ r f stage, DayCall name v c r f stage →
        ∃ t, r.translate zone f = .ok t ∧ t.stages = []) :
      CallsAgree zone name v c (.ok none)
  | bound {u : LocalTime}
      (h : ∀ r f stage, DayCall name v c r f stage →
        ∃ t, r.translate zone f = .ok t ∧ t.stages = [stage (.dateTime (.utc u))]) :
      CallsAgree zone name v c (.ok (some (.dateTime (.utc u))))

theorem callsAgree (hv : v.moment? ≠ none ∨ v.isWritable = true) (zone : Except Error Zone)
    (name : String) (c : Comparison) : CallsAgree zone name v c (v.dayLimit? zone c) := by
  have hstages {r f stage} (h : DayCall name v c r f stage) := h.stages_eq hv zone
  cases hlimit : v.dayLimit? zone c with
  | error e =>
    rw [hlimit] at hstages
    refine .failure fun r f stage h => ?_
    have hr := hstages h
    cases ht : r.translate zone f with
    | error e' =>
      rw [ht] at hr
      rw [Except.error.inj hr]
    | ok t =>
      rw [ht] at hr
      cases hr
  | ok bound =>
    rw [hlimit] at hstages
    cases bound with
    | none => exact .nothing fun r f stage h => exists_of_map_eq_ok (hstages h)
    | some bound =>
      obtain ⟨u, rfl⟩ := exists_utc_of_dayLimit? hlimit
      exact .bound fun r f stage h => exists_of_map_eq_ok (hstages h)

end

/-- The bound for a field that is named by a number, with the flag for dates. -/
def sinceMarch : Filters :=
  .ofList [(dateGate, .bool true), ("5-from", .text "2024-03-01")]

end Rule

end FilterPipeline
