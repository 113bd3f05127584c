import FilterPipeline.Proofs.CivilOrder
import FilterPipeline.Proofs.DayBounds

/-!
What the comparisons with days select. In a zone whose offset never changes and is a whole number
of milliseconds, a document with a whole millisecond passes a comparison with the day of a value
exactly when its own date, in that zone, compares that way by year, month and day. A range takes
the dates between its two days, so that the ranges of single days lie side by side: each
millisecond passes that of its own date and no other. With an offset of a fraction of a
millisecond, the last millisecond of a day ends after the bound of that day.
-/

namespace FilterPipeline

namespace Comparison

/-- How an instant compares with another one. -/
def Holds : Comparison → Int → Int → Prop
  | .greater, x, bound => bound < x
  | .less, x, bound => x < bound
  | .atLeast, x, bound => bound ≤ x
  | .atMost, x, bound => x ≤ bound

/-- How a date compares with another one, by year, month and day. -/
def HoldsOn : Comparison → Date → Date → Prop
  | .greater, d, e => e.civil.Before d.civil
  | .less, d, e => d.civil.Before e.civil
  | .atLeast, d, e => ¬ d.civil.Before e.civil
  | .atMost, d, e => ¬ e.civil.Before d.civil

theorem holdsOn_iff (c : Comparison) (d e : Date) :
    c.HoldsOn d e ↔ c.Holds d.dayNumber e.dayNumber := by
  cases c <;> simp only [HoldsOn, Holds, Date.civil_before_iff] <;> omega

instance (c : Comparison) (x bound : Int) : Decidable (c.Holds x bound) :=
  match c with
  | .greater => inferInstanceAs (Decidable (bound < x))
  | .less => inferInstanceAs (Decidable (x < bound))
  | .atLeast => inferInstanceAs (Decidable (bound ≤ x))
  | .atMost => inferInstanceAs (Decidable (x ≤ bound))

instance (c : Comparison) (d e : Date) : Decidable (c.HoldsOn d e) :=
  decidable_of_iff _ (c.holdsOn_iff d e).symm

end Comparison

/-- The instant that a stored moment is. -/
def Value.instant? : Value → Option Int
  | .dateTime m => m.offset?.map fun o => m.wall.micros - o
  | _ => none

theorem Value.instant?_utc (u : LocalTime) :
    (Value.dateTime (.utc u)).instant? = some (u.micros : Int) :=
  congrArg some (Int.sub_zero _)

/-- An instant keeps to all of the bounds. -/
def KeepsTo (x : Int) (limits : List (Comparison × Value)) : Prop :=
  ∀ l ∈ limits, ∃ bound, l.2.instant? = some bound ∧ l.1.Holds x bound

/-- A stage bounds a field, and a document with the given instant in it passes. -/
def Stage.Admits (s : Stage) (name : String) (x : Int) : Prop :=
  ∃ limits, s = .filter (.single (.text name) (.bounds limits)) ∧ KeepsTo x limits

theorem Stage.admits_iff {name : String} {limits : List (Comparison × Value)} {x : Int} :
    (Stage.filter (.single (.text name) (.bounds limits))).Admits name x ↔ KeepsTo x limits := by
  simp [Admits, Query.single]

theorem Stage.admits_bound_iff {name : String} {c : Comparison} {u : LocalTime} {x : Int} :
    (Stage.filter (.single (.text name) (.bounds [(c, .dateTime (.utc u))]))).Admits name x ↔
      c.Holds x u.micros := by
  simp [admits_iff, KeepsTo, Value.instant?_utc]

namespace Zone

/-- The offset of the zone is the same at all times. -/
def IsFixed (z : Zone) : Prop := z.transitions = []

variable {z : Zone} {x : Int}

theorem IsFixed.reading_eq (hz : z.IsFixed) (x : Int) : z.reading x = x + z.initialOffset := by
  unfold reading offsetAt
  rw [hz]
  rfl

theorem IsFixed.universal_eq (hz : z.IsFixed) (later : Bool) (w : Int) :
    z.universal later w = w - z.initialOffset := by
  unfold universal
  rw [hz]
  rfl

/-- Against the end of a day that a comparison is about, an instant compares as its date. -/
theorem IsFixed.holds_iff (hz : z.IsFixed) (hoffset : 1000 ∣ z.initialOffset) (hx : 1000 ∣ x)
    (c : Comparison) (day : Date) (later : Bool) :
    c.Holds x (z.universal later (day.reading c.dayTime)) ↔
      c.Holds (z.dayAt x) day.dayNumber := by
  have hmilli : 1000 ∣ z.reading x := by
    rw [hz.reading_eq]
    exact Int.dvd_add hx hoffset
  have hstart := day.dayNumber_le_iff (z.reading x)
  have hstop := day.le_dayNumber_iff hmilli
  rw [hz.universal_eq]
  rw [hz.reading_eq] at hstart hstop
  cases c <;> simp only [Comparison.Holds, Comparison.dayTime, dayAt, hz.reading_eq] <;> omega

end Zone

/-- To the millisecond, a stage takes the documents whose dates have a property. -/
def Stage.Selects (s : Stage) (z : Zone) (name : String) (p : Date → Prop) : Prop :=
  ∀ x (day : Date), 1000 ∣ x → z.dayAt x = day.dayNumber → (s.Admits name x ↔ p day)

section

variable [Host]

/-- A bound is stored for a value exactly if the value has a date, and it is an end of that date. -/
theorem Value.limit?_eq_ok {v : Value} {z : Zone} {t : TimeOfDay} {bound : Option Value}
    (h : v.limit? z (some t) = .ok bound) :
    (v.localDate? z = none ∧ bound = none) ∨
      ∃ day later u, v.localDate? z = some day ∧ bound = some (.dateTime (.utc u)) ∧
        (u.micros : Int) = z.universal later (day.reading t) := by
  cases hdate : v.localDate? z with
  | none =>
    refine Or.inl ⟨rfl, ?_⟩
    unfold limit? at h
    cases hm : v.moment? with
    | none =>
      rw [hm] at h
      exact (Except.ok.inj h).symm
    | some m =>
      -- A moment without a date has left the calendar, and then nothing is stored.
      have hlost : z.ofDateTime? m = none := by simpa [localDate?, hm] using hdate
      rw [hm] at h
      simp [Zone.stored?, hlost, inCalendar, Except.map] at h
  | some day =>
    obtain ⟨later, hlimit⟩ := limit?_of_localDate? hdate
    rw [hlimit] at h
    cases hu : LocalTime.ofMicros? (z.universal later (day.reading t)) with
    | none => simp [hu, inCalendar, Except.map] at h
    | some u =>
      refine Or.inr ⟨day, later, u, rfl, ?_, LocalTime.micros_of_ofMicros? hu⟩
      simpa [hu, inCalendar, Except.map] using h.symm

theorem Value.eq_none_iff_of_limit? {v : Value} {z : Zone} {t : TimeOfDay}
    {bound : Option Value} (h : v.limit? z (some t) = .ok bound) :
    bound = none ↔ v.localDate? z = none := by
  rcases limit?_eq_ok h with ⟨hdate, rfl⟩ | ⟨day, later, u, hdate, rfl, _⟩
  · simp [hdate]
  · simp [hdate]

/-- An instant keeps to the bound that is made from a value exactly if its date compares with
that of the value, if that has one. -/
theorem keepsTo_limit_iff {z : Zone} (hz : z.IsFixed) (hoffset : 1000 ∣ z.initialOffset)
    {x : Int} (hx : 1000 ∣ x) {day : Date} (hday : z.dayAt x = day.dayNumber) (c : Comparison)
    {v : Value} {bound : Option Value} (hbound : v.limit? z (some c.dayTime) = .ok bound) :
    KeepsTo x (bound.map (c, ·)).toList ↔ ∀ d, v.localDate? z = some d → c.HoldsOn day d := by
  rcases Value.limit?_eq_ok hbound with ⟨hdate, rfl⟩ | ⟨d, later, u, hdate, rfl, hu⟩
  · simp [KeepsTo, hdate]
  · have hholds := hz.holds_iff hoffset hx c d later
    rw [← hu, hday, ← c.holdsOn_iff] at hholds
    simp [KeepsTo, hdate, Value.instant?_utc, hholds]

namespace Rule

variable {z : Zone} {f : Filters} {name : String} {result : Translation}

theorem dayComparison_stages {c : Comparison}
    (h : (dayComparison (.text name) c).translate (.ok z) f = .ok result) :
    ∃ bound, (operand f (.text name) c.dayOperator).limit? z (some c.dayTime) = .ok bound ∧
      result.stages = (bound.map fun u =>
        Stage.filter (.single (.text name) (.bounds [(c, u)]))).toList := by
  rw [translate_dayComparison, Value.dayLimit?_ok] at h
  obtain ⟨stage, hstage, hstages⟩ := settle_eq_ok h fun hpresent => by
    rw [Value.limit?_of_not_isPresent hpresent]
    rfl
  obtain ⟨bound, hbound, rfl⟩ := exists_of_map_eq_ok hstage
  exact ⟨bound, hbound, hstages⟩

theorem dayRange_stages (h : (dayRange (.text name)).translate (.ok z) f = .ok result) :
    ∃ start stop,
      (operand f (.text name) .rangeFrom).limit? z (some .midnight) = .ok start ∧
      (operand f (.text name) .rangeTo).limit? z (some .lastMilli) = .ok stop ∧
      result.stages = if dayBounds start stop = [] then []
        else [.filter (.single (.text name) (.bounds (dayBounds start stop)))] := by
  rw [translate_dayRange, Value.dayLimit?_ok, Value.dayLimit?_ok] at h
  obtain ⟨start, hstart, hrest⟩ := exists_of_bind_eq_ok h
  obtain ⟨stop, hstop, hresult⟩ := exists_of_bind_eq_ok hrest
  refine ⟨start, stop, hstart, hstop, ?_⟩
  rw [← Except.ok.inj hresult]
  split <;> rfl

/-- A comparison takes the dates that compare that way with the date of its value. -/
theorem dayComparison_selects (hz : z.IsFixed) (hoffset : 1000 ∣ z.initialOffset) {c : Comparison}
    (h : (dayComparison (.text name) c).translate (.ok z) f = .ok result) :
    ((operand f (.text name) c.dayOperator).localDate? z = none ∧ result.stages = []) ∨
      ∃ d s, (operand f (.text name) c.dayOperator).localDate? z = some d ∧
        result.stages = [s] ∧ s.Selects z name (c.HoldsOn · d) := by
  obtain ⟨bound, hbound, hstages⟩ := dayComparison_stages h
  rcases Value.limit?_eq_ok hbound with ⟨hdate, rfl⟩ | ⟨d, later, u, hdate, rfl, _⟩
  · exact Or.inl ⟨hdate, hstages⟩
  · refine Or.inr ⟨d, _, hdate, hstages, fun x day hx hday => ?_⟩
    have hkeeps := keepsTo_limit_iff hz hoffset hx hday c hbound
    rw [Stage.admits_iff]
    simpa [hdate] using hkeeps

/-- A range takes the dates between those of its values, as far as they have dates. -/
theorem dayRange_selects (hz : z.IsFixed) (hoffset : 1000 ∣ z.initialOffset)
    (h : (dayRange (.text name)).translate (.ok z) f = .ok result) :
    ((operand f (.text name) .rangeFrom).localDate? z = none ∧
      (operand f (.text name) .rangeTo).localDate? z = none ∧ result.stages = []) ∨
    ∃ s, result.stages = [s] ∧ s.Selects z name fun day =>
      (∀ d, (operand f (.text name) .rangeFrom).localDate? z = some d →
        Comparison.atLeast.HoldsOn day d) ∧
      (∀ d, (operand f (.text name) .rangeTo).localDate? z = some d →
        Comparison.atMost.HoldsOn day d) := by
  obtain ⟨start, stop, hstart, hstop, hstages⟩ := dayRange_stages h
  by_cases hbounds : dayBounds start stop = []
  · obtain ⟨hnoStart, hnoStop⟩ : start = none ∧ stop = none := by
      simpa [dayBounds] using hbounds
    rw [if_pos hbounds] at hstages
    exact Or.inl ⟨(Value.eq_none_iff_of_limit? hstart).mp hnoStart,
      (Value.eq_none_iff_of_limit? hstop).mp hnoStop, hstages⟩
  · rw [if_neg hbounds] at hstages
    refine Or.inr ⟨_, hstages, fun x day hx hday => ?_⟩
    have hlower := keepsTo_limit_iff hz hoffset hx hday .atLeast hstart
    have hupper := keepsTo_limit_iff hz hoffset hx hday .atMost hstop
    rw [Stage.admits_iff]
    exact List.forall_mem_append.trans (and_congr hlower hupper)

/-- A range from a day to itself takes that day alone. -/
theorem dayRange_selects_day (hz : z.IsFixed) (hoffset : 1000 ∣ z.initialOffset)
    (h : (dayRange (.text name)).translate (.ok z) f = .ok result) {d : Date}
    (hfrom : (operand f (.text name) .rangeFrom).localDate? z = some d)
    (hto : (operand f (.text name) .rangeTo).localDate? z = some d) :
    ∃ s, result.stages = [s] ∧ s.Selects z name (· = d) := by
  rcases dayRange_selects hz hoffset h with ⟨hnone, _⟩ | ⟨s, hs, hselects⟩
  · rw [hfrom] at hnone
    exact absurd hnone (by simp)
  · refine ⟨s, hs, fun x day hx hday => ?_⟩
    have hbetween := hselects x day hx hday
    simp only [hfrom, hto, Option.some.injEq, forall_eq', Comparison.holdsOn_iff,
      Comparison.Holds] at hbetween
    rw [hbetween]
    change _ ↔ day = d
    rw [Date.eq_iff]
    omega

end Rule

end

namespace Rule

/-- A zone that is always five hours and three quarters ahead of universal time. -/
def threeQuarters : Zone := ⟨"+05:45", 20700000000, []⟩

def leapDay : Date := ⟨738944, by decide⟩

def dayBeforeLeapDay : Date := ⟨738943, by decide⟩

/-- A range from that day to a quarter to midnight on it. -/
def onLeapDay : Filters :=
  .ofList [("due-from", .date leapDay), ("due-to", .text "2024-02-29T18:00:00Z")]

/-- A zone that is half a millisecond ahead of universal time. -/
def halfMilli : Zone := ⟨"+00:00:00.0005", 500, []⟩

def newYear2020 : Date := ⟨737424, by decide⟩

def newYearsEve2019 : Date := ⟨737423, by decide⟩

def throughNewYear : Filters := .ofList [("due-lteDate", .date newYear2020)]

/-- From a midnight that is half a second ahead of universal time, and so from the day before. -/
def sinceNewYear : Filters :=
  .ofList [("due-gteDate", .text "2020-01-01T00:00:00+00:00:00.500000")]

end Rule

end FilterPipeline
