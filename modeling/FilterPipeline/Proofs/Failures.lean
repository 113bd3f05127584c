import FilterPipeline.Builder

/-!
What can go wrong. A computation fails only in ways that its parts fail in, so the failures of a
rule are followed through its parts. A rule that is applied in a zone fails because of the values
that it is given or finds, or because there is no zone. A join fails because of its arguments.
-/

namespace FilterPipeline

/-- A failure that values bring about, and no zone. -/
def Error.IsOfValues : Error → Prop
  | .outsideCalendar | .tooManyDigits | .badId | .repeatedDirective | .badKey | .notPattern
  | .notName | .notMoment => True
  | _ => False

/-- Whatever makes a computation fail has a given property. -/
structure FailsOnly {α : Type} (x : Except Error α) (P : Error → Prop) : Prop where
  of_error : ∀ e, x = .error e → P e

namespace FailsOnly

variable {α β : Type} {x : Except Error α} {P Q : Error → Prop}

theorem ok (a : α) : FailsOnly (.ok a) P where
  of_error e h := by simp at h

theorem error {e : Error} (h : P e) : FailsOnly (.error e : Except Error α) P where
  of_error d hd := by
    rw [Except.error.injEq] at hd
    exact hd ▸ h

theorem bind {f : α → Except Error β} (hx : FailsOnly x P) (hf : ∀ a, FailsOnly (f a) P) :
    FailsOnly (x >>= f) P := by
  cases x with
  | error e => exact error (hx.of_error e rfl)
  | ok a => exact hf a

theorem map (f : α → β) (hx : FailsOnly x P) : FailsOnly (x.map f) P := by
  cases x with
  | error e => exact error (hx.of_error e rfl)
  | ok a => exact ok (f a)

theorem ite {p : Prop} [Decidable p] {y : Except Error α} (hx : FailsOnly x P)
    (hy : FailsOnly y P) : FailsOnly (if p then x else y) P := by
  split
  · exact hx
  · exact hy

theorem mapM {f : α → Except Error β} (h : ∀ a, FailsOnly (f a) P) (as : List α) :
    FailsOnly (as.mapM f) P := by
  induction as with
  | nil => exact ok []
  | cons a rest ih =>
    rw [List.mapM_cons]
    exact (h a).bind fun _ => ih.bind fun _ => ok _

theorem mono (hx : FailsOnly x P) (himp : ∀ e, P e → Q e) : FailsOnly x Q where
  of_error e h := himp e (hx.of_error e h)

end FailsOnly

theorem inCalendar_failsOnly {α : Type} (o : Option α) :
    FailsOnly (inCalendar o) Error.IsOfValues := by
  cases o with
  | none => exact FailsOnly.error trivial
  | some a => exact FailsOnly.ok a

namespace Value

theorem nameOrFail_failsOnly (v : Value) : FailsOnly v.nameOrFail Error.IsOfValues := by
  cases v with
  | text name => exact FailsOnly.ok name
  | _ => exact FailsOnly.error trivial

theorem momentOrFail_failsOnly (v : Value) : FailsOnly v.momentOrFail Error.IsOfValues := by
  cases v with
  | dateTime m => exact FailsOnly.ok m
  | _ => exact FailsOnly.error trivial

theorem write_failsOnly (v : Value) : FailsOnly v.write Error.IsOfValues :=
  .ite (.ok _) (.error trivial)

theorem spell_failsOnly (v : Value) : FailsOnly v.spell Error.IsOfValues :=
  .ite (.ok _) (.error trivial)

end Value

theorem Zone.toStored_failsOnly (z : Zone) (m : Zoned) :
    FailsOnly (z.toStored m) Error.IsOfValues := (inCalendar_failsOnly _).map _

theorem Zone.presentTime_failsOnly (z : Zone) (now : Value) :
    FailsOnly (z.presentTime now) Error.IsOfValues := by
  have hmoment : FailsOnly (do
      let m ← z.ofDateTime (← now.momentOrFail)
      return m.wall.time) Error.IsOfValues :=
    now.momentOrFail_failsOnly.bind fun m => (inCalendar_failsOnly _).bind fun w => FailsOnly.ok _
  cases now with
  | time t => exact FailsOnly.ok t
  | _ => exact hmoment

section

variable [Host]

theorem readMoment_failsOnly (pattern : Value) (cs : List Char) :
    FailsOnly (readMoment pattern cs) Error.IsOfValues := by
  unfold readMoment
  split
  · split
    · split
      · exact FailsOnly.ok _
      · split
        · exact FailsOnly.error trivial
        · exact FailsOnly.ok _
    · exact FailsOnly.error trivial
  · exact FailsOnly.ok _

namespace Value

theorem readDateTime_failsOnly (v pattern : Value) :
    FailsOnly (v.readDateTime pattern) Error.IsOfValues := by
  cases v with
  | text s => exact readMoment_failsOnly ..
  | _ => exact FailsOnly.ok _

theorem readZoned_failsOnly (v : Value) (z : Zone) (pattern : Value) :
    FailsOnly (v.readZoned z pattern) Error.IsOfValues := by
  refine (v.readDateTime_failsOnly pattern).bind fun m => ?_
  cases m with
  | none => exact FailsOnly.ok _
  | some m => exact (inCalendar_failsOnly _).bind fun w => FailsOnly.ok _

theorem convertId_failsOnly (v : Value) : FailsOnly v.convertId Error.IsOfValues := by
  cases v with
  | id oid => exact .ok oid
  | text s =>
    rw [convertId]
    cases Host.idOfText? s.toList with
    | some oid => exact .ok oid
    | none => exact .error trivial
  | _ => exact .error trivial

theorem toIds_failsOnly (vs : List Value) : FailsOnly (toIds vs) Error.IsOfValues :=
  .mapM convertId_failsOnly _

end Value

end

namespace Rule

theorem writeKey_failsOnly (field : Value) (op : Operator) :
    FailsOnly (writeKey field op) Error.IsOfValues := field.write_failsOnly.map _

theorem resolve_failsOnly (f : Filters) (key given : Value) :
    FailsOnly (resolve f key given) Error.IsOfValues := by
  unfold resolve
  split
  · exact .ok _
  · exact .ite (.ok _) (.error trivial)
  · exact .ok _

theorem report_failsOnly (about v : Value) : FailsOnly (report about v) Error.IsOfValues :=
  about.write_failsOnly.bind fun _ => v.spell_failsOnly.bind fun _ => .ok _

theorem matchField_failsOnly (field : Value) (c : Condition) :
    FailsOnly (matchField field c) Error.IsOfValues := .ite (.ok _) (.error trivial)

theorem matchRange_failsOnly (field other : Value) (limits : List (Comparison × Value)) :
    FailsOnly (matchRange field other limits) Error.IsOfValues :=
  .ite (matchField_failsOnly ..) (.ite (.ok _) (.error trivial))

/-- A report fails as its parts do, and so does what comes after it. -/
theorem reported_failsOnly (about v : Value) (consumed : List String) :
    FailsOnly (report about v >>= fun _ => pure (Translation.skip consumed)) Error.IsOfValues :=
  (report_failsOnly about v).bind fun _ => .ok _

theorem matched_failsOnly (field : Value) (c : Condition) (consumed : List String) :
    FailsOnly (matchField field c >>= fun stage => pure (Translation.of stage consumed))
      Error.IsOfValues :=
  (matchField_failsOnly field c).bind fun _ => .ok _

theorem operandMatch_failsOnly (f : Filters) (field given : Value) (op : Operator)
    (condition : Value → Condition) :
    FailsOnly (operandMatch f field given op condition) Error.IsOfValues :=
  (writeKey_failsOnly ..).bind fun _ => (resolve_failsOnly ..).bind fun _ =>
    .ite (.ok _) (matched_failsOnly ..)

theorem flagMatch_failsOnly (f : Filters) (field : Value) (op : Operator) (c : Condition) :
    FailsOnly (flagMatch f field op c) Error.IsOfValues :=
  (writeKey_failsOnly ..).bind fun _ => (resolve_failsOnly ..).bind fun _ =>
    .ite (.ok _) (matched_failsOnly ..)

theorem logicalMatch_failsOnly (f : Filters) (key : String) (query : List Value → Query) :
    FailsOnly (logicalMatch f key query) Error.IsOfValues := by
  refine (resolve_failsOnly ..).bind ?_
  rintro ⟨conditions, consumed⟩
  dsimp only
  split
  · exact .ok _
  · exact .ok _
  · exact reported_failsOnly ..

theorem expectMatch_failsOnly (f : Filters) (field expected flagKey : Value) :
    FailsOnly (expectMatch f field expected flagKey) Error.IsOfValues := by
  have hkey : FailsOnly (writeExistenceKey field flagKey) Error.IsOfValues :=
    .ite (.ok _) ((writeKey_failsOnly ..).map _)
  exact hkey.bind fun _ => (resolve_failsOnly ..).bind fun _ => .ite (.ok _) (matched_failsOnly ..)

theorem spanLimits_failsOnly (startField endField : Value) (stored : String → Operand)
    (bound : Value) : FailsOnly (spanLimits startField endField stored bound) Error.IsOfValues :=
  startField.nameOrFail_failsOnly.bind fun _ => endField.nameOrFail_failsOnly.bind fun _ => .ok _

theorem timeSide_failsOnly (c : Comparison) (field v : Value) (millis : TimeOfDay → Nat) :
    FailsOnly (timeSide c field v millis) Error.IsOfValues := by
  refine .ite (.ok _) ?_
  split
  · exact .ok _
  · exact field.nameOrFail_failsOnly.bind fun _ => .ok _

variable {zone : Except Error Zone}

/-- What can go wrong in a rule that is applied in a zone: the zone may be missing, and there
are the values. -/
def Fault (zone : Except Error Zone) (e : Error) : Prop := zone = .error e ∨ e.IsOfValues

theorem fault_of_values {α : Type} {x : Except Error α} (h : FailsOnly x Error.IsOfValues) :
    FailsOnly x (Fault zone) := h.mono fun _ => Or.inr

theorem zone_failsOnly : FailsOnly zone (Fault zone) where
  of_error _ := Or.inl

theorem equalityMatch_failsOnly (f : Filters) (field given : Value)
    {convert : Value → Except Error (Option Value)} (h : ∀ v, FailsOnly (convert v) (Fault zone)) :
    FailsOnly (equalityMatch f field given convert) (Fault zone) := by
  refine (fault_of_values (resolve_failsOnly ..)).bind fun resolved => .ite (.ok _) ?_
  refine (h resolved.1).bind fun converted => fault_of_values ?_
  cases converted with
  | none => exact reported_failsOnly ..
  | some v => exact matched_failsOnly ..

section

variable [Host]

theorem momentOf_failsOnly (pattern v : Value) :
    FailsOnly (momentOf zone pattern v) (Fault zone) := by
  refine zone_failsOnly.bind fun z => fault_of_values ?_
  refine (v.readZoned_failsOnly z pattern).bind fun reading => ?_
  cases reading with
  | none => exact .ok _
  | some m => exact (z.toStored_failsOnly m).bind fun _ => .ok _

theorem idListMatch_failsOnly (f : Filters) (field key given : Value) :
    FailsOnly (idListMatch f field key given) Error.IsOfValues := by
  refine (resolve_failsOnly ..).bind fun resolved => .ite (.ok _) ?_
  refine (Value.toIds_failsOnly _).bind fun oids => ?_
  cases oids with
  | nil => exact .ok _
  | cons oid rest => exact matched_failsOnly ..

/-- A bound asks for the zone only if there is a value. -/
theorem dayRangeSide_failsOnly (c : Comparison) (v : Value) :
    FailsOnly (dayRangeSide zone c v) (Fault zone) := by
  refine .ite (.ok _) (zone_failsOnly.bind fun z => fault_of_values ?_)
  refine (v.readZoned_failsOnly z .null).bind fun reading => ?_
  cases reading with
  | none => exact .ok _
  | some m => exact (z.toStored_failsOnly _).bind fun _ => .ok _

theorem dayAcrossSide_failsOnly (c : Comparison) (field v : Value) :
    FailsOnly (dayAcrossSide zone c field v) (Fault zone) := by
  refine .ite (.ok _) (zone_failsOnly.bind fun z => fault_of_values ?_)
  refine (v.readZoned_failsOnly z .null).bind fun reading => ?_
  cases reading with
  | none => exact .ok _
  | some m =>
    exact field.nameOrFail_failsOnly.bind fun _ => (z.toStored_failsOnly _).bind fun _ => .ok _

theorem dayComparisonMatch_failsOnly (f : Filters) (field : Value) (c : Comparison) :
    FailsOnly (dayComparisonMatch f zone field c) (Fault zone) := by
  refine (fault_of_values (writeKey_failsOnly ..)).bind fun key => ?_
  refine (fault_of_values (resolve_failsOnly ..)).bind fun resolved => .ite (.ok _) ?_
  refine zone_failsOnly.bind fun z => fault_of_values ?_
  refine (Value.readZoned_failsOnly _ z .null).bind fun reading => ?_
  cases reading with
  | none => exact reported_failsOnly ..
  | some m => exact (z.toStored_failsOnly _).bind fun _ => matched_failsOnly ..

theorem todayMatch_failsOnly (f : Filters) (startField endField now : Value) :
    FailsOnly (todayMatch f zone startField endField now) (Fault zone) := by
  refine .ite (.ok _) (zone_failsOnly.bind fun z => fault_of_values ?_)
  refine now.momentOrFail_failsOnly.bind fun _ => (inCalendar_failsOnly _).bind fun m => ?_
  exact (z.toStored_failsOnly _).bind fun _ => (spanLimits_failsOnly ..).bind fun _ => .ok _

theorem timeOfDayMatch_failsOnly (f : Filters) (startField endField given now : Value) :
    FailsOnly (timeOfDayMatch f zone startField endField given now) (Fault zone) := by
  have hsought : FailsOnly (timeSought zone given now) (Fault zone) :=
    .ite (.ok _) (zone_failsOnly.bind fun z =>
      fault_of_values ((z.presentTime_failsOnly now).bind fun _ => .ok _))
  refine .ite (.ok _) (hsought.bind fun time => fault_of_values ?_)
  cases time with
  | none => exact given.spell_failsOnly.bind fun _ => .ok _
  | some t => exact (spanLimits_failsOnly ..).bind fun _ => .ok _

theorem translate_failsOnly (r : Rule) (zone : Except Error Zone) (f : Filters) :
    FailsOnly (r.translate zone f) (Fault zone) := by
  cases r <;> rw [translate]
  case text | number | truth => exact equalityMatch_failsOnly _ _ _ fun _ => .ok _
  case id =>
    refine equalityMatch_failsOnly _ _ _ fun v => fault_of_values ?_
    exact .ite (v.convertId_failsOnly.map _) (.ok _)
  case moment => exact equalityMatch_failsOnly _ _ _ fun v => momentOf_failsOnly ..
  case search =>
    refine fault_of_values ((resolve_failsOnly ..).bind fun resolved => .ite (.ok _) ?_)
    exact (Value.write_failsOnly _).bind fun _ => matched_failsOnly ..
  case notEqual | comparison | among | notAmong =>
    exact fault_of_values (operandMatch_failsOnly ..)
  case notEmpty | isNull | notNull => exact fault_of_values (flagMatch_failsOnly ..)
  case idsAmong =>
    exact fault_of_values ((writeKey_failsOnly ..).bind fun _ => idListMatch_failsOnly ..)
  case ids => exact fault_of_values (idListMatch_failsOnly ..)
  case notDeleted =>
    exact fault_of_values ((resolve_failsOnly ..).bind fun _ => matched_failsOnly ..)
  case expect => exact fault_of_values (expectMatch_failsOnly ..)
  case existence =>
    exact fault_of_values ((writeKey_failsOnly ..).bind fun _ =>
      (resolve_failsOnly ..).bind fun _ =>
        .ite (matched_failsOnly ..) (.ite (matched_failsOnly ..) (.ok _)))
  case trueOrFalse =>
    exact fault_of_values ((writeKey_failsOnly ..).bind fun _ =>
      (writeKey_failsOnly ..).bind fun _ =>
        .ite (matched_failsOnly ..) (.ite (matched_failsOnly ..) (.ok _)))
  case range =>
    exact fault_of_values ((writeKey_failsOnly ..).bind fun _ =>
      (writeKey_failsOnly ..).bind fun _ =>
        .ite (.ok _) ((matchRange_failsOnly ..).bind fun _ => .ok _))
  case dayRange =>
    refine (fault_of_values (writeKey_failsOnly ..)).bind fun _ => ?_
    refine (fault_of_values (writeKey_failsOnly ..)).bind fun _ => ?_
    refine (dayRangeSide_failsOnly ..).bind fun _ => (dayRangeSide_failsOnly ..).bind fun _ => ?_
    exact .ite (.ok _) (fault_of_values (matched_failsOnly ..))
  case dayComparison => exact dayComparisonMatch_failsOnly ..
  case today => exact todayMatch_failsOnly ..
  case timeOfDay => exact timeOfDayMatch_failsOnly ..
  case timeRange =>
    refine zone_failsOnly.bind fun _ => fault_of_values ?_
    refine (writeKey_failsOnly ..).bind fun _ => (writeKey_failsOnly ..).bind fun _ => ?_
    refine (timeSide_failsOnly ..).bind fun _ => (timeSide_failsOnly ..).bind fun _ => ?_
    exact .ite (.ok _) (.ok _)
  case dayRangeAcross =>
    refine .ite (.ok _) ((fault_of_values (writeKey_failsOnly ..)).bind fun _ => ?_)
    refine (fault_of_values (writeKey_failsOnly ..)).bind fun _ => ?_
    refine (dayAcrossSide_failsOnly ..).bind fun _ => (dayAcrossSide_failsOnly ..).bind fun _ => ?_
    exact .ite (.ok _) (.ok _)
  case anyOf | allOf => exact fault_of_values (logicalMatch_failsOnly ..)
  case anyOfNamed =>
    exact fault_of_values ((writeKey_failsOnly ..).bind fun _ => logicalMatch_failsOnly ..)

end

end Rule

theorem JoinRequest.elements_failsOnly (join : JoinRequest) (pipeline : Value) :
    FailsOnly (join.elements pipeline) (· = .notIterable) := by
  unfold elements Value.elementsOrFail
  split
  · split
    · exact FailsOnly.ok _
    · exact FailsOnly.error rfl
  · exact FailsOnly.ok _

theorem JoinRequest.strict_failsOnly (join : JoinRequest) (pipeline : List Value) :
    FailsOnly (join.strict pipeline) Error.IsOfValues := by
  refine .ite ?_ (.ok _)
  have htarget : FailsOnly (join.toLookup pipeline).strictTarget Error.IsOfValues :=
    .ite (.ok _) ((Value.write_failsOnly _).map _)
  exact htarget.bind fun target => (target.nameOrFail_failsOnly.map fieldPath).bind fun _ => .ok _

end FilterPipeline
