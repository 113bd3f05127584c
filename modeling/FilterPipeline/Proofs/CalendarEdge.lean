import FilterPipeline.Proofs.CalendarFailure

/-!
Where a single date makes a rule fail. Read on its own, a value that stands for a moment fails at
the edge of the calendar and nowhere else. If it says its offset and is no reading of the zone's
own clock, then its universal time or its reading in the zone can lie beyond the edge, and whether
or not it does, the universal time of what is stored for it can. A reading of the zone's own clock
fails only on the way back, which in universal time is no way at all. A value that stands for no
moment fails if it is reported and has no text.
-/

namespace FilterPipeline

/-- Universal time keeps every reading, at any time of its day. -/
theorem Zone.boundOf_utc {m : DateTime} (hm : m.place = .unsaid) (t : Option TimeOfDay) :
    InCalendar (utc.boundOf m t) := by
  have hread := readingOf_of_isLocalTo (z := utc) (Or.inl hm)
  have hbound : utc.boundOf m t = (m.reading.withTime t).wall.micros := by
    rw [Zoned.micros_withTime, boundOf, hread]
    exact Int.sub_zero _
  rw [hbound]
  exact LocalTime.inCalendar _

namespace Rule

/-- The rule reports a value that stands for no moment. -/
def Reports : Rule → Prop
  | .moment _ _ _ | .dayComparison _ _ => True
  | _ => False

section

variable [Host] {v : Value} {r : Rule} {f : Filters} {t : Option TimeOfDay} {z : Zone}

/-- A rule reads one value of a dictionary as a moment and moves it to a time of its day, if to
any: a moment, a comparison with a day, or one side of a range of days, on one field or across
two with their flag set. -/
inductive ReadsAlone (v : Value) : Rule → Filters → Option TimeOfDay → Prop where
  | moment {f : Filters} {given : Value} {name : String} (hv : inputOr f given name = v) :
      ReadsAlone v (.moment (.text name) given .null) f none
  | comparison {f : Filters} {name : String} {c : Comparison}
      (hv : operand f (.text name) c.dayOperator = v) :
      ReadsAlone v (.dayComparison (.text name) c) f (some c.dayTime)
  | rangeFrom {f : Filters} {name : String} (hv : operand f (.text name) .rangeFrom = v)
      (hto : operand f (.text name) .rangeTo = .null) :
      ReadsAlone v (.dayRange (.text name)) f (some .midnight)
  | rangeTo {f : Filters} {name : String} (hfrom : operand f (.text name) .rangeFrom = .null)
      (hv : operand f (.text name) .rangeTo = v) :
      ReadsAlone v (.dayRange (.text name)) f (some .lastMilli)
  | acrossFrom {f : Filters} {startName endName : String}
      (hgate : (f.value dateGate).isFlagSet = true)
      (hv : operand f (.text startName) .rangeFrom = v)
      (hto : operand f (.text endName) .rangeTo = .null) :
      ReadsAlone v (.dayRangeAcross (.text startName) (.text endName)) f (some .midnight)
  | acrossTo {f : Filters} {startName endName : String}
      (hgate : (f.value dateGate).isFlagSet = true)
      (hfrom : operand f (.text startName) .rangeFrom = .null)
      (hv : operand f (.text endName) .rangeTo = v) :
      ReadsAlone v (.dayRangeAcross (.text startName) (.text endName)) f (some .lastMilli)

theorem not_overflows_null (z : Zone) (t : Option TimeOfDay) : ¬ Value.null.Overflows z t := by
  rintro ⟨m, hm, _⟩
  exact absurd hm (by simp [Value.moment?])

/-- The one value decides. -/
theorem ReadsAlone.fails (h : ReadsAlone v r f t) (z : Zone) :
    FailsExactly (r.translate (.ok z) f) (v.Overflows z t)
      (r.Reports ∧ v.moment? = none ∧ v.isWritable = false) := by
  cases h with
  | moment hv =>
    refine (moment_fails ..).congr (by rw [hv]) ?_
    simp [Unwritable, written, bare_text, hv, Reports]
  | comparison hv =>
    refine (dayComparison_fails ..).congr (by rw [hv]) ?_
    simp [Unwritable, written, hv, Reports]
  | rangeFrom hv hto =>
    refine (dayRange_fails ..).congr ?_ (by simp [Reports])
    simp [hv, hto, not_overflows_null]
  | rangeTo hfrom hv =>
    refine (dayRange_fails ..).congr ?_ (by simp [Reports])
    simp [hv, hfrom, not_overflows_null]
  | acrossFrom hgate hv hto =>
    refine (dayRangeAcross_fails hgate ..).congr ?_ (by simp [Reports])
    simp [hv, hto, not_overflows_null]
  | acrossTo hgate hfrom hv =>
    refine (dayRangeAcross_fails hgate ..).congr ?_ (by simp [Reports])
    simp [hv, hfrom, not_overflows_null]

/-- In universal time a value that does not say its offset has nowhere to go. -/
theorem ReadsAlone.exists_translation_utc (h : ReadsAlone v r f t) {m : DateTime}
    (hm : v.moment? = some m) (hplace : m.place = .unsaid) :
    ∃ result, r.translate (.ok .utc) f = .ok result := by
  cases hresult : r.translate (.ok .utc) f with
  | ok result => exact ⟨result, rfl⟩
  | error e =>
    rcases ((h.fails .utc).error_iff e).mp hresult with ⟨-, n, hn, hlost⟩ | ⟨-, -, hnone, -⟩
    · rw [hm, Option.some.injEq] at hn
      subst hn
      rcases hlost with ⟨hlocal, -⟩ | hout
      · exact absurd (Or.inl hplace) hlocal
      · exact absurd (Zone.boundOf_utc hplace t) hout
    · rw [hm] at hnone
      cases hnone

/-- A value that is read alone makes a rule fail at the edge of the calendar: on its way to a
reading of the zone, unless it is one already, or on the way of what is stored back to universal
time. Apart from that it fails only if it stands for no moment and is reported, but has no text. A
reading of the zone's own clock can fail only on the way back, and in universal time a value that
does not say its offset never fails. -/
theorem reads_alone_fails_iff (h : ReadsAlone v r f t) {name : String}
    (hname : Zone.resolve name = .ok z) :
    (∀ e, r.translate (Zone.resolve name) f = .error e ↔
      e = .outsideCalendar ∧
          (∃ m, v.moment? = some m ∧ (z.LosesReading m ∨ ¬ InCalendar (z.boundOf m t))) ∨
        e = .tooManyDigits ∧ r.Reports ∧ v.moment? = none ∧ v.isWritable = false) ∧
    (∀ m, v.moment? = some m → m.IsLocalTo z → ∀ e,
      r.translate (Zone.resolve name) f = .error e ↔
        e = .outsideCalendar ∧
          ¬ InCalendar (z.universal m.later (replaceTime t m.wall.micros))) ∧
    (∀ m, v.moment? = some m → m.place = .unsaid → Zone.isUtcName name = true →
      ∃ result, r.translate (Zone.resolve name) f = .ok result) := by
  rw [hname]
  refine ⟨(h.fails z).error_iff, fun m hm hlocal e => ?_, fun m hm hplace hutc => ?_⟩
  · rw [(h.fails z).error_iff e]
    have hkeeps : ¬ z.LosesReading m := fun hlost => hlost.1 hlocal
    simp [Value.Overflows, hm, hkeeps, Zone.boundOf, Zone.readingOf_of_isLocalTo hlocal]
  · obtain rfl : z = .utc := by
      rw [Zone.resolve, if_pos hutc] at hname
      exact (Except.ok.inj hname).symm
    exact h.exists_translation_utc hm hplace

end

/-- A query for everything through the last day of the calendar. -/
def throughLastDay : Rule := .dayComparison (.text "due") .atMost

def lastDay : Filters := .ofList [("due-lteDate", .date ⟨3652058, by decide⟩)]

/-- Where clocks are behind universal time, the last day ends beyond the calendar. -/
theorem lastDay_fails_behind :
    ReadsAlone (.date ⟨3652058, by decide⟩) throughLastDay lastDay (some .lastMilli) ∧
      throughLastDay.translate (Zone.resolve "Etc/GMT+12") lastDay = .error .outsideCalendar ∧
      ∃ result, throughLastDay.translate (Zone.resolve "UTC") lastDay = .ok result := by
  have halone : ReadsAlone (.date ⟨3652058, by decide⟩) throughLastDay lastDay (some .lastMilli) :=
    .comparison rfl
  have hbehind : Zone.resolve "Etc/GMT+12" = .ok .gmtPlus12 := rfl
  have hutc : Zone.resolve "UTC" = .ok .utc := rfl
  refine ⟨halone, ?_, (reads_alone_fails_iff halone hutc).2.2 _ rfl rfl rfl⟩
  refine ((reads_alone_fails_iff halone hbehind).1 _).mpr (Or.inl ⟨rfl, _, rfl, Or.inr ?_⟩)
  decide

/-- A comparison with a number that is no day, and too long for a text. -/
def endless : Filters := .ofList [("due-lteDate", .longInteger)]

/-- A date whose instant lies beyond the last day, by an offset of half a second. -/
def dueBeyond : Filters :=
  .ofList [("due", .text "9999-12-31T23:59:59.900000-00:00:00.500000")]

/-- Not every failure is at the edge of the calendar. Nor does all fail that lies beyond the edge by
the offset that is said: the reader takes a short offset for none. -/
theorem not_forall_outsideCalendar :
    (¬ ∀ (v : Value) (r : Rule) (f : Filters) (t : Option TimeOfDay) (z : Zone) (e : Error),
      ReadsAlone v r f t → r.translate (.ok z) f = .error e → e = .outsideCalendar) ∧
    ¬ ∀ (v : Value) (r : Rule) (f : Filters) (t : Option TimeOfDay) (z : Zone),
      ReadsAlone v r f t → @Value.Overflows .exact v z t →
        ∃ e, r.translate (.ok z) f = .error e := by
  constructor
  · intro h
    have halone : ReadsAlone .longInteger throughLastDay endless (some .lastMilli) :=
      .comparison rfl
    have hfails := ((halone.fails .utc).error_iff .tooManyDigits).mpr
      (Or.inr ⟨rfl, trivial, rfl, Value.isWritable_longInteger⟩)
    exact absurd (h _ _ _ _ _ _ halone hfails) (by simp)
  · intro h
    have halone : ReadsAlone (.text "9999-12-31T23:59:59.900000-00:00:00.500000") due dueBeyond
        none := .moment rfl
    have hbeyond : @Value.Overflows .exact (.text "9999-12-31T23:59:59.900000-00:00:00.500000")
        .utc none := by
      refine ⟨⟨⟨315537897599900000, by decide⟩, false, .offset ⟨-500000, by decide⟩⟩,
        by decide +kernel, Or.inr (by decide +kernel)⟩
    obtain ⟨e, he⟩ := h _ _ _ _ _ halone hbeyond
    obtain ⟨result, hresult⟩ : ∃ result, due.translate (.ok .utc) dueBeyond = .ok result := ⟨_, rfl⟩
    rw [hresult] at he
    cases he

end Rule

end FilterPipeline
