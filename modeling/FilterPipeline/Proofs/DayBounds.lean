import FilterPipeline.Proofs.NamedFields
import FilterPipeline.Proofs.PublishedZones

/-!
The bounds of a day. A bound is made from a reading by moving it to the midnight or to the last
millisecond of its date and going back to universal time by the same occurrence of the clock.
The date alone decides on the bound exactly when the clock shows that end of the day once. Then
all moments of the day keep to the right side of it, and values of one day can stand for each
other. Where an end of a day is shown twice or skipped, two readings of the day have two bounds,
and one of them can cut off a part of the day.
-/

namespace FilterPipeline

namespace Date

/-- What a clock reads on a date at a time of day. -/
def reading (d : Date) (t : TimeOfDay) : Int := d.dayNumber * microsPerDay + t.micros

/-- A day has begun from its midnight on. -/
theorem dayNumber_le_iff (day : Date) (w : Int) :
    (day.dayNumber : Int) ≤ w / microsPerDay ↔ day.reading .midnight ≤ w := by
  simp only [reading, TimeOfDay.midnight, microsPerDay]
  omega

/-- To the millisecond, a day goes on through its last one. -/
theorem le_dayNumber_iff (day : Date) {w : Int} (hw : 1000 ∣ w) :
    w / microsPerDay ≤ (day.dayNumber : Int) ↔ w ≤ day.reading .lastMilli := by
  simp only [reading, TimeOfDay.lastMilli, microsPerDay]
  omega

end Date

theorem LocalTime.ofMicros?_eq_iff {a b : Int} :
    ofMicros? a = ofMicros? b ↔ a = b ∨ ¬ InCalendar a ∧ ¬ InCalendar b := by
  constructor
  · intro h
    cases ha : ofMicros? a with
    | none =>
      rw [ha] at h
      exact Or.inr ⟨ofMicros?_eq_none_iff.mp ha, ofMicros?_eq_none_iff.mp h.symm⟩
    | some u =>
      rw [ha] at h
      exact Or.inl ((micros_of_ofMicros? ha).symm.trans (micros_of_ofMicros? h.symm))
  · rintro (rfl | ⟨ha, hb⟩)
    · rfl
    · rw [ofMicros?_eq_none_iff.mpr ha, ofMicros?_eq_none_iff.mpr hb]

namespace Zone

variable {z : Zone} {day : Date} {t : TimeOfDay} {u : Int}

/-- The number of the day that the clock of the zone shows at an instant. -/
def dayAt (z : Zone) (u : Int) : Int := z.reading u / microsPerDay

theorem toUtc?_atTime (z : Zone) (m : Zoned) (t : TimeOfDay) :
    z.toUtc? (m.atTime t) =
      LocalTime.ofMicros? (z.universal m.later (m.wall.date.reading t)) := by
  have hwall : ((m.atTime t).wall.micros : Int) = m.wall.date.reading t := by
    change ((m.wall.date.dayNumber * microsPerDay + t.micros : Nat) : Int) = _
    push_cast
    rfl
  rw [toUtc?, LocalTime.shift?, localOffset, universal, hwall, Int.sub_eq_add_neg]
  rfl

/-- All readings of a day have the same bound at a time of the day. -/
def AgreesOn (z : Zone) (day : Date) (t : TimeOfDay) : Prop :=
  ∀ m n : Zoned, m.wall.date = day → n.wall.date = day →
    z.toUtc? (m.atTime t) = z.toUtc? (n.atTime t)

/-- The readings of a day have one bound if the clock shows it once, or none if it is not in the
calendar. -/
theorem agreesOn_iff (hz : z.IsSpaced) :
    z.AgreesOn day t ↔
      z.ShowsOnce (day.reading t) ∨ ∀ later, ¬ InCalendar (z.universal later (day.reading t)) := by
  constructor
  · intro h
    have hdate : (LocalTime.of day .midnight).date = day := by
      cases day
      simp [LocalTime.date, LocalTime.of, TimeOfDay.midnight, microsPerDay]
    have hboth := h ⟨.of day .midnight, false⟩ ⟨.of day .midnight, true⟩ hdate hdate
    rw [toUtc?_atTime, toUtc?_atTime, hdate, LocalTime.ofMicros?_eq_iff] at hboth
    rcases hboth with heq | ⟨hfirst, hlast⟩
    · exact Or.inl ((showsOnce_iff hz).mpr heq)
    · exact Or.inr fun later => by cases later <;> assumption
  · intro h m n hm hn
    rw [toUtc?_atTime, toUtc?_atTime, hm, hn, LocalTime.ofMicros?_eq_iff]
    rcases h with honce | hout
    · exact Or.inl ((honce.universal_eq hz _).trans (honce.universal_eq hz _).symm)
    · exact Or.inr ⟨hout _, hout _⟩

/-- All of a millisecond lies in one day. -/
theorem IsRegular.dayAt_wholeMillis (hz : z.IsRegular) (u : Int) :
    z.dayAt (wholeMillis u) = z.dayAt u := by
  unfold dayAt
  rw [hz.reading_wholeMillis]
  simp only [wholeMillis, microsPerDay]
  omega

variable {m : Zoned} {s : LocalTime}

theorem micros_of_toUtc? (hs : z.toUtc? (m.atTime t) = some s) :
    (s.micros : Int) = z.universal m.later (m.wall.date.reading t) := by
  rw [toUtc?_atTime] at hs
  exact LocalTime.micros_of_ofMicros? hs

/-- A midnight that comes up once parts the instants of its day and of later days from the
earlier ones. -/
theorem IsRegular.start_le_iff (hz : z.IsRegular)
    (honce : z.ShowsOnce (m.wall.date.reading .midnight))
    (hs : z.toUtc? m.startOfDay = some s) (u : Int) :
    s.micros ≤ wholeMillis u ↔ m.wall.date.dayNumber ≤ z.dayAt u := by
  rw [micros_of_toUtc? hs, ← honce.le_reading_iff hz.spaced, ← Date.dayNumber_le_iff,
    ← hz.dayAt_wholeMillis, dayAt]

/-- A last millisecond that comes up once parts the instants of its day and of earlier days from
the later ones. -/
theorem IsRegular.le_stop_iff (hz : z.IsRegular)
    (honce : z.ShowsOnce (m.wall.date.reading .lastMilli))
    (hs : z.toUtc? m.endOfDay = some s) (u : Int) :
    wholeMillis u ≤ s.micros ↔ z.dayAt u ≤ m.wall.date.dayNumber := by
  have hmilli : 1000 ∣ z.reading (wholeMillis u) := by
    rw [hz.reading_wholeMillis]
    exact Int.dvd_mul_left ..
  rw [micros_of_toUtc? hs, ← honce.reading_le_iff hz.spaced, ← Date.le_dayNumber_iff _ hmilli,
    ← hz.dayAt_wholeMillis, dayAt]

end Zone

namespace Rule

/-- The stage of a value that stands for a moment is the one found for it. -/
theorem head?_settle {v : Value} {x : Except Error (Option Stage)} (hv : v.isPresent = true)
    (hx : x ≠ .ok none) (consumed : List String) :
    (settle v x consumed).map (fun translation => translation.stages.head?) = x := by
  rw [settle, if_pos hv]
  cases x with
  | error e => rfl
  | ok stage =>
    cases stage with
    | none => exact absurd rfl hx
    | some s => rfl

/-- The keys that are consumed have no influence on the stage. -/
theorem head?_settle_congr (v : Value) (x : Except Error (Option Stage))
    (consumed consumed' : List String) :
    (settle v x consumed).map (fun translation => translation.stages.head?) =
      (settle v x consumed').map fun translation => translation.stages.head? := by
  unfold settle
  by_cases hv : v.isPresent = true
  · rw [if_pos hv, if_pos hv]
    cases x with
    | error e => rfl
    | ok stage =>
      cases stage with
      | none => cases v.spell <;> rfl
      | some s => rfl
  · rw [if_neg hv, if_neg hv]
    rfl

end Rule

section

variable [Host]

namespace Value

/-- The date that the clock of a zone shows at the moment that the value stands for. -/
def localDate? (v : Value) (z : Zone) : Option Date :=
  (v.moment?.bind z.ofDateTime?).map fun m => m.wall.date

variable {v w : Value} {z : Zone} {day : Date} {t : TimeOfDay}

/-- What is stored for a value that has a date depends on the value only by that date and by the
occurrence of the clock. -/
theorem limit?_of_localDate? (h : v.localDate? z = some day) :
    ∃ later, ∀ t, v.limit? z (some t) =
      (inCalendar (LocalTime.ofMicros? (z.universal later (day.reading t)))).map
        fun u => some (.dateTime (.utc u)) := by
  obtain ⟨m, hm, rfl⟩ := Option.map_eq_some_iff.mp h
  obtain ⟨n, hn, hmn⟩ := Option.bind_eq_some_iff.mp hm
  refine ⟨m.later, fun t => ?_⟩
  simp only [limit?, Zone.stored?, hn, hmn, Option.bind_some, Zoned.withTime, Zone.toUtc?_atTime]

/-- Two values have one end of a day in common: they are the same, or they have the same date, at
whose end the clock does nothing unusual. -/
def ShareEnd (z : Zone) (t : TimeOfDay) (v w : Value) : Prop :=
  v = w ∨ ∃ day, z.ShowsOnce (day.reading t) ∧
    v.localDate? z = some day ∧ w.localDate? z = some day

theorem ShareEnd.limit?_eq (hz : z.IsSpaced) (h : ShareEnd z t v w) :
    v.limit? z (some t) = w.limit? z (some t) := by
  rcases h with rfl | ⟨day, honce, hv, hw⟩
  · rfl
  · obtain ⟨later, hlimit⟩ := limit?_of_localDate? hv
    obtain ⟨later', hlimit'⟩ := limit?_of_localDate? hw
    rw [hlimit, hlimit', honce.universal_eq hz later, honce.universal_eq hz later']

theorem moment?_ne_none_of_localDate? (h : v.localDate? z = some day) : v.moment? ≠ none := by
  intro hnone
  rw [localDate?, hnone] at h
  exact Option.some_ne_none _ h.symm

end Value

namespace Rule

variable {v w : Value} {z : Zone} {t : TimeOfDay}

/-- Values that share an end of a day come to the same stage, if a stage is made of that end. -/
theorem head?_settle_of_shareEnd (hz : z.IsSpaced) (h : Value.ShareEnd z t v w)
    (stageOf : Value → Except Error Stage) (consumed consumed' : List String) :
    (settle v (v.limit? z (some t) >>= fun bound => match bound with
        | none => .ok none
        | some u => (stageOf u).map some) consumed).map
          (fun translation => translation.stages.head?) =
      (settle w (w.limit? z (some t) >>= fun bound => match bound with
        | none => .ok none
        | some u => (stageOf u).map some) consumed').map
          fun translation => translation.stages.head? := by
  rcases h with rfl | ⟨day, honce, hv, hw⟩
  · exact head?_settle_congr ..
  · have found : ∀ y : Value, y.localDate? z = some day →
        y.isPresent = true ∧ (y.limit? z (some t) >>= fun bound => match bound with
          | none => .ok none
          | some u => (stageOf u).map some) ≠ .ok none := by
      intro y hy
      have hmoment := Value.moment?_ne_none_of_localDate? hy
      refine ⟨by_contra fun hpresent => hmoment (Value.moment?_of_not_isPresent hpresent), ?_⟩
      have hlimit := mt (Value.limit?_eq_none_iff (z := z) (t := some t)).mp hmoment
      cases hbound : y.limit? z (some t) with
      | error e => exact nofun
      | ok bound =>
        cases bound with
        | none => exact absurd hbound hlimit
        | some u => cases hstage : stageOf u <;> simp [hstage, bind, Except.bind, Except.map]
    rw [head?_settle (found v hv).1 (found v hv).2, head?_settle (found w hw).1 (found w hw).2,
      (show Value.ShareEnd z t v w from Or.inr ⟨day, honce, hv, hw⟩).limit?_eq hz]

end Rule

end

namespace Zone

/-- In a regular zone, as all the published ones are, the readings of a day agree on an end of it
exactly when the clock shows that end once, unless the end leaves the calendar. If it is shown
once, it has all moments of the day on its right side, to the millisecond, and all moments beyond
the day on the other, and the rules about days take values of one day for each other. -/
theorem day_bounds [Host] {z : Zone} (hz : z.IsRegular) :
    (∀ day t, z.AgreesOn day t ↔ z.ShowsOnce (day.reading t) ∨
      ∀ later, ¬ InCalendar (z.universal later (day.reading t))) ∧
    (∀ (m : Zoned) (s : LocalTime), z.ShowsOnce (m.wall.date.reading .midnight) →
      z.toUtc? m.startOfDay = some s →
      ∀ u, s.micros ≤ wholeMillis u ↔ m.wall.date.dayNumber ≤ z.dayAt u) ∧
    (∀ (m : Zoned) (s : LocalTime), z.ShowsOnce (m.wall.date.reading .lastMilli) →
      z.toUtc? m.endOfDay = some s →
      ∀ u, wholeMillis u ≤ s.micros ↔ z.dayAt u ≤ m.wall.date.dayNumber) ∧
    (∀ (field : Value) (c : Comparison) (f g : Filters),
      Value.ShareEnd z c.dayTime (Rule.operand f field c.dayOperator)
        (Rule.operand g field c.dayOperator) →
      (Rule.dayComparison field c).stage? (.ok z) f =
        (Rule.dayComparison field c).stage? (.ok z) g) ∧
    (∀ (field : Value) (f g : Filters),
      Value.ShareEnd z .midnight (Rule.operand f field .rangeFrom)
        (Rule.operand g field .rangeFrom) →
      Value.ShareEnd z .lastMilli (Rule.operand f field .rangeTo)
        (Rule.operand g field .rangeTo) →
      (Rule.dayRange field).stage? (.ok z) f = (Rule.dayRange field).stage? (.ok z) g) := by
  refine ⟨fun day t => agreesOn_iff hz.spaced, fun m s => hz.start_le_iff,
    fun m s => hz.le_stop_iff, ?_, ?_⟩
  · intro field c f g h
    simp only [Rule.stage?, Rule.dayComparison_eq, Value.dayLimit?_ok]
    split
    · exact Rule.head?_settle_of_shareEnd hz.spaced h _ _ _
    · rfl
  · intro field f g hfrom hto
    simp only [Rule.stage?, Rule.dayRange_eq, Value.dayLimit?_ok, Comparison.dayTime,
      hfrom.limit?_eq hz.spaced, hto.limit?_eq hz.spaced]
    split
    · cases (Rule.operand g field .rangeFrom).limit? z (some .midnight) with
      | error e => rfl
      | ok start =>
        cases (Rule.operand g field .rangeTo).limit? z (some .lastMilli) with
        | error e => rfl
        | ok stop =>
          simp only [bind, Except.bind]
          split
          · rfl
          · cases Rule.matchField field (.bounds (Rule.dayBounds start stop)) <;> rfl
    · rfl

/-- A Saturday of which the clock in São Paulo shows the last hour twice. -/
def longSaturday : Date := ⟨736741, by decide⟩

/-- The noon of that day, and half past eleven in the evening for the second time. -/
def noonOfLongSaturday : Zoned := ⟨.of longSaturday ⟨43200000000, by decide⟩, false⟩

def lateOnLongSaturday : Zoned := ⟨.of longSaturday ⟨84600000000, by decide⟩, true⟩

theorem day_bounds_longSaturday :
    saoPaulo.IsRegular ∧ saoPaulo.AgreesOn longSaturday .midnight ∧
      ¬ saoPaulo.AgreesOn longSaturday .lastMilli := by
  have hz : saoPaulo.IsRegular := isRegular_regions _ (by simp [regions])
  obtain ⟨hagrees, _⟩ := day_bounds hz
  refine ⟨hz, (hagrees _ _).mpr (Or.inl ((showsOnce_iff hz.spaced).mpr (by decide +kernel))), ?_⟩
  rw [hagrees, showsOnce_iff hz.spaced]
  decide +kernel

/-- Neither do the bounds of a day always agree, nor do they always have the day between
them. -/
theorem not_forall_day_bounds :
    (¬ ∀ (name : String) (z : Zone) (m n : Zoned), resolve name = .ok z →
      m.wall.date = n.wall.date →
      z.toUtc? m.startOfDay = z.toUtc? n.startOfDay ∧
        z.toUtc? m.endOfDay = z.toUtc? n.endOfDay) ∧
    (¬ ∀ (name : String) (z : Zone) (m : Zoned) (s e : LocalTime) (u : Int),
      resolve name = .ok z → z.toUtc? m.startOfDay = some s → z.toUtc? m.endOfDay = some e →
      z.dayAt u = m.wall.date.dayNumber →
      s.micros ≤ wholeMillis u ∧ wholeMillis u ≤ e.micros) := by
  have hname : resolve "America/Sao_Paulo" = .ok saoPaulo := rfl
  constructor
  · intro h
    have hends := (h _ _ noonOfLongSaturday lateOnLongSaturday hname rfl).2
    revert hends
    decide +kernel
  · -- The second half past eleven comes after the first end of the day.
    intro h
    have hstart : saoPaulo.toUtc? noonOfLongSaturday.startOfDay =
        some ⟨63654429600000000, by decide⟩ := by decide +kernel
    have hstop : saoPaulo.toUtc? noonOfLongSaturday.endOfDay =
        some ⟨63654515999999000, by decide⟩ := by decide +kernel
    have hday : saoPaulo.dayAt 63654517800000000 = noonOfLongSaturday.wall.date.dayNumber := by
      decide +kernel
    have hends := (h _ _ _ _ _ _ hname hstart hstop hday).2
    exact absurd hends (by decide)

end Zone

end FilterPipeline
