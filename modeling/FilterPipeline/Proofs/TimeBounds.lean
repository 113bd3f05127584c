import FilterPipeline.Proofs.DaySelection
import FilterPipeline.Proofs.TimeText

/-!
Times of day as milliseconds, and what the rules about them ask of a field that holds milliseconds.
A count of milliseconds keeps the order of the times and tells them apart down to the millisecond.
A range of times goes from the start of one second to the last millisecond of another one, and a
single time is compared to the millisecond, be it given as a text or read off a clock.
-/

namespace FilterPipeline

open Text

namespace TimeOfDay

variable (t : TimeOfDay)

/-- A time is earlier than another one by the clock. -/
def Before (s t : TimeOfDay) : Prop :=
  s.hour < t.hour ∨ s.hour = t.hour ∧ (s.minute < t.minute ∨ s.minute = t.minute ∧
    (s.second < t.second ∨ s.second = t.second ∧ s.micro < t.micro))

/-- The start of the second of a time. -/
def toSecond : TimeOfDay :=
  ⟨t.micros - t.micro, Nat.lt_of_le_of_lt (Nat.sub_le _ _) t.inRange⟩

theorem micros_eq : t.micros =
    ((t.hour * 60 + t.minute) * 60 + t.second) * microsPerSecond + t.micro := by
  simp only [hour, minute, second, micro, microsPerSecond]
  omega

theorem millis_eq :
    t.millis = t.hour * 3600000 + t.minute * 60000 + t.second * 1000 + t.micro / 1000 := by
  have hmicros := t.micros_eq
  simp only [microsPerSecond] at hmicros
  rw [millis]
  omega

theorem millis_le : t.millis ≤ 86399999 := by
  have ht := t.inRange
  simp only [microsPerDay] at ht
  rw [millis]
  omega

theorem before_iff (s t : TimeOfDay) : s.Before t ↔ s.micros < t.micros := by
  obtain ⟨-, hminute, hsecond, hmicro⟩ := s.parts_lt
  obtain ⟨-, hminute', hsecond', hmicro'⟩ := t.parts_lt
  rw [Before, s.micros_eq, t.micros_eq]
  simp only [microsPerSecond]
  omega

theorem millis_mono {s t : TimeOfDay} (h : ¬ t.Before s) : s.millis ≤ t.millis := by
  rw [before_iff, Nat.not_lt] at h
  exact Nat.div_le_div_right h

theorem millis_eq_iff (s t : TimeOfDay) : s.millis = t.millis ↔ s.hour = t.hour ∧
    s.minute = t.minute ∧ s.second = t.second ∧ s.micro / 1000 = t.micro / 1000 := by
  obtain ⟨-, hminute, hsecond, hmicro⟩ := s.parts_lt
  obtain ⟨-, hminute', hsecond', hmicro'⟩ := t.parts_lt
  rw [s.millis_eq, t.millis_eq]
  omega

theorem toSecond_parts : t.toSecond.hour = t.hour ∧ t.toSecond.minute = t.minute ∧
    t.toSecond.second = t.second ∧ t.toSecond.micro = 0 := by
  simp only [toSecond, hour, minute, second, micro, microsPerSecond]
  omega

theorem millis_toSecond : t.toSecond.millis = t.wholeSecondMillis := by
  simp only [toSecond, millis, wholeSecondMillis, micro, microsPerSecond]
  omega

/-- A second ends in the same day. -/
theorem millis_toSecond_add_le : t.toSecond.millis + 999 ≤ 86399999 := by
  have ht := t.inRange
  simp only [microsPerDay] at ht
  rw [millis_toSecond]
  simp only [wholeSecondMillis, microsPerSecond]
  omega

end TimeOfDay

namespace Operand

/-- The number that an operand is in a document. -/
def number? (doc : String → Option Int) : Operand → Option Int
  | .field name => doc (fieldPath name)
  | .orZero o => some ((o.number? doc).getD 0)
  | .plusZero o => o.number? doc

end Operand

/-- The operand is a number in the document, and compares with that of the limit. -/
def Limit.Admits (l : Limit) (doc : String → Option Int) : Prop :=
  ∃ n bound, l.operand.number? doc = some n ∧ l.bound = .int bound ∧ l.comparison.Holds n bound

/-- A stage compares numbers, and the document passes. -/
def Stage.Passes (s : Stage) (doc : String → Option Int) : Prop :=
  ∃ limits, s = .filter (.expression limits) ∧ ∀ l ∈ limits, l.Admits doc

theorem Stage.passes_iff {limits : List Limit} {doc : String → Option Int} :
    (Stage.filter (.expression limits)).Passes doc ↔ ∀ l ∈ limits, l.Admits doc := by
  simp [Passes]

/-- A field that is missing counts as zero. -/
theorem Limit.admits_orZero (c : Comparison) (name : String) (bound : Int)
    (doc : String → Option Int) :
    (Limit.mk c (.orZero (.field name)) (.int bound)).Admits doc ↔
      c.Holds ((doc (fieldPath name)).getD 0) bound := by
  simp [Admits, Operand.number?]

namespace Stage

/-- The stage for times from the second of one time on, through the second of another one. -/
def timeWindow (startField endField : String) (a b : TimeOfDay) : Stage :=
  .filter (.expression [⟨.atLeast, .orZero (.field startField), .int a.toSecond.millis⟩,
    ⟨.atMost, .orZero (.field endField), .int (b.toSecond.millis + 999)⟩])

/-- The stage for a time between two fields. -/
def timeBetween (startField endField : String) (t : TimeOfDay) : Stage :=
  .filter (.expression [⟨.atMost, .plusZero (.orZero (.field startField)), .int t.millis⟩,
    ⟨.atLeast, .plusZero (.orZero (.field endField)), .int t.millis⟩])

variable {startField endField : String} {doc : String → Option Int}

theorem timeWindow_passes_iff {a b : TimeOfDay} :
    (timeWindow startField endField a b).Passes doc ↔
      (a.toSecond.millis : Int) ≤ (doc (fieldPath startField)).getD 0 ∧
        (doc (fieldPath endField)).getD 0 ≤ b.toSecond.millis + 999 := by
  rw [timeWindow, passes_iff, List.forall_mem_cons, List.forall_mem_singleton,
    Limit.admits_orZero, Limit.admits_orZero]
  rfl

end Stage

namespace Rule

/-- Only texts and times of day stand for a time of day, and the empty text does not. -/
theorem toTime?_of_not_isPresent {v : Value} (h : ¬ v.isPresent = true) : v.toTime? = none := by
  rcases Value.eq_of_not_isPresent h with rfl | rfl
  · rfl
  · decide

theorem timeSide_text (c : Comparison) (name : String) (v : Value) (millis : TimeOfDay → Nat) :
    timeSide c (.text name) v millis = .ok (v.toTime?.map fun t =>
      Limit.mk c (.orZero (.field name)) (.int (millis t))).toList := by
  unfold timeSide
  by_cases hv : v.isPresent = true
  · rw [if_neg (by simp [hv])]
    cases v.toTime? <;> rfl
  · rw [if_pos (by simpa using hv), toTime?_of_not_isPresent hv]
    rfl

section

variable [Host] {f : Filters} {z : Zone} {startField endField : String}

theorem timeRange_stages {a b : TimeOfDay} (z : Zone)
    (ha : (operand f (.text startField) .timeFrom).toTime? = some a)
    (hb : (operand f (.text endField) .timeTo).toTime? = some b) :
    ∃ r, (timeRange (.text startField) (.text endField)).translate (.ok z) f = .ok r ∧
      r.stages = [.timeWindow startField endField a b] := by
  rw [translate]
  unfold timeRangeMatch
  simp only [writeKey_text, timeSide_text, bind, Except.bind]
  simp only [operand] at ha hb
  rw [ha, hb, Stage.timeWindow, a.millis_toSecond, b.millis_toSecond]
  exact ⟨_, rfl, rfl⟩

/-- With the gate set, a time of day that is found is compared with two fields. -/
theorem translate_timeOfDay (hgate : (f.value timeGate).isFlagSet = true)
    {zone : Except Error Zone} {given now : Value} {t : TimeOfDay}
    (ht : timeSought zone given now = .ok (some t)) (startField endField : String) :
    (timeOfDay (.text startField) (.text endField) given now).translate zone f =
      .ok (.of (.timeBetween startField endField t) ([timeGate].filter f.contains)) := by
  rw [translate]
  unfold timeOfDayMatch
  simp only [hgate, Bool.not_true, Bool.false_eq_true, if_false, bind, Except.bind, ht]
  rfl

theorem timeSought_now (z : Zone) (m : DateTime) :
    timeSought (.ok z) .null (.dateTime m) =
      (inCalendar (z.ofDateTime? m)).map fun w => some w.wall.time := by
  change (inCalendar (z.ofDateTime? m) >>= fun w => .ok w.wall.time) >>= _ = _
  cases inCalendar (z.ofDateTime? m) <;> rfl

/-- A time that is read off the clock of the zone is compared as its text is. -/
theorem timeOfDay_now_eq_text (hgate : (f.value timeGate).isFlagSet = true) {m : DateTime}
    {w : Zoned} (hw : z.ofDateTime? m = some w) (zone : Except Error Zone) (now : Value) :
    ∃ r, (timeOfDay (.text startField) (.text endField) .null (.dateTime m)).translate
        (.ok z) f = .ok r ∧
      (timeOfDay (.text startField) (.text endField)
        (.text (String.ofList w.wall.time.isoText)) now).translate zone f = .ok r ∧
      r.stages = [.timeBetween startField endField w.wall.time] := by
  have hread : (Value.text (String.ofList w.wall.time.isoText)).toTime? = some w.wall.time := by
    simpa using Value.toTime?_isoText w.wall.time (List.forall_mem_nil _) (List.forall_mem_nil _)
  have htruthy : (Value.text (String.ofList w.wall.time.isoText)).isTruthy = true := by
    simp [Value.isTruthy, TimeOfDay.isoText_eq, String.ext_iff]
  have hclock : timeSought (.ok z) .null (.dateTime m) = .ok (some w.wall.time) := by
    rw [timeSought_now, hw]
    rfl
  have htext : timeSought zone (.text (String.ofList w.wall.time.isoText)) now =
      .ok (some w.wall.time) := by
    rw [timeSought, if_pos htruthy, hread]
  exact ⟨_, translate_timeOfDay hgate hclock _ _, translate_timeOfDay hgate htext _ _, rfl⟩

theorem timeOfDay_now_error (hgate : (f.value timeGate).isFlagSet = true) {m : DateTime}
    (hm : z.ofDateTime? m = none) (startField endField : Value) :
    (timeOfDay startField endField .null (.dateTime m)).translate (.ok z) f =
      .error .outsideCalendar := by
  have hclock : timeSought (.ok z) .null (.dateTime m) = .error .outsideCalendar := by
    rw [timeSought_now, hm]
    rfl
  rw [translate]
  unfold timeOfDayMatch
  simp only [hgate, Bool.not_true, Bool.false_eq_true, if_false, bind, Except.bind, hclock]

/-- A time of day is read from its text, with white space around it or not. Its milliseconds lie in
the day, do not decrease with the time, and are those of another time exactly if both agree down to
the millisecond. A range of times takes the milliseconds from the start of the second of its first
time through the last one of the second of its other time, which is still in the day. The present
time in a zone is compared as its text is, unless the clock of the zone leaves the calendar. -/
theorem times_of_day_agree :
    (∀ (t : TimeOfDay) (front back : List Char), (∀ c ∈ front, isBlank c = true) →
      (∀ c ∈ back, isBlank c = true) →
      (Value.text (String.ofList (front ++ t.isoText ++ back))).toTime? = some t) ∧
    (∀ t : TimeOfDay, t.millis ≤ 86399999 ∧
      t.millis = t.hour * 3600000 + t.minute * 60000 + t.second * 1000 + t.micro / 1000) ∧
    (∀ s t : TimeOfDay, ¬ t.Before s → s.millis ≤ t.millis) ∧
    (∀ s t : TimeOfDay, s.millis = t.millis ↔ s.hour = t.hour ∧ s.minute = t.minute ∧
      s.second = t.second ∧ s.micro / 1000 = t.micro / 1000) ∧
    (∀ t : TimeOfDay, t.toSecond.hour = t.hour ∧ t.toSecond.minute = t.minute ∧
      t.toSecond.second = t.second ∧ t.toSecond.micro = 0) ∧
    (∀ (z : Zone) (f : Filters) (startField endField : String) (a b : TimeOfDay),
      (operand f (.text startField) .timeFrom).toTime? = some a →
      (operand f (.text endField) .timeTo).toTime? = some b →
      ∃ r s, (timeRange (.text startField) (.text endField)).translate (.ok z) f = .ok r ∧
        r.stages = [s] ∧ s = .timeWindow startField endField a b ∧
        (∀ doc, s.Passes doc ↔
          (a.toSecond.millis : Int) ≤ (doc (fieldPath startField)).getD 0 ∧
            (doc (fieldPath endField)).getD 0 ≤ b.toSecond.millis + 999) ∧
        (∀ m : Int, (s.Passes fun _ => some m) ↔
          (a.toSecond.millis : Int) ≤ m ∧ m ≤ b.toSecond.millis + 999) ∧
        b.toSecond.millis + 999 ≤ 86399999) ∧
    (∀ (z : Zone) (f : Filters) (startField endField : String) (m : DateTime),
      (f.value timeGate).isFlagSet = true →
      (∀ w, z.ofDateTime? m = some w → ∀ now,
        ∃ r, (timeOfDay (.text startField) (.text endField) .null (.dateTime m)).translate
            (.ok z) f = .ok r ∧
          (timeOfDay (.text startField) (.text endField)
            (.text (String.ofList w.wall.time.isoText)) now).translate (.ok z) f = .ok r ∧
          r.stages = [.timeBetween startField endField w.wall.time]) ∧
      (z.ofDateTime? m = none →
        (timeOfDay (.text startField) (.text endField) .null (.dateTime m)).translate (.ok z) f =
          .error .outsideCalendar)) := by
  refine ⟨fun t _ _ hfront hback => Value.toTime?_isoText t hfront hback,
    fun t => ⟨t.millis_le, t.millis_eq⟩, fun _ _ => TimeOfDay.millis_mono,
    TimeOfDay.millis_eq_iff, TimeOfDay.toSecond_parts, ?_, ?_⟩
  · intro z f startField endField a b ha hb
    obtain ⟨r, hr, hstages⟩ := timeRange_stages z ha hb
    exact ⟨r, _, hr, hstages, rfl, fun _ => Stage.timeWindow_passes_iff,
      fun _ => Stage.timeWindow_passes_iff, b.millis_toSecond_add_le⟩
  · intro z f startField endField m hgate
    exact ⟨fun w hw now => timeOfDay_now_eq_text hgate hw (.ok z) now,
      fun hm => timeOfDay_now_error hgate hm _ _⟩

end

/-- Half a second before midnight. -/
def lastHalfSecond : TimeOfDay := ⟨86399500000, by decide⟩

/-- A range that starts and ends at that time, and the flag for the present time. -/
def atMidnight : Filters := .ofList [("opens-time-from", .text "23:59:59.500000"),
  ("closes-time-to", .text " 23:59:59.500000\n"), ("range-within-time", .bool true)]

/-- Half a second before midnight in the zone that is always five hours and three quarters ahead of
universal time. -/
def beforeMidnight : DateTime := .utc ⟨63844827299500000, by decide⟩

theorem times_of_day_agree_midnight :
    (∃ r s, (timeRange (.text "opens") (.text "closes")).translate (.ok .utc) atMidnight = .ok r ∧
      r.stages = [s] ∧ (s.Passes fun _ => some 86399000) ∧ (s.Passes fun _ => some 86399999) ∧
      ¬ (s.Passes fun _ => some 86398999) ∧ ¬ (s.Passes fun _ => some 86400000)) ∧
    ∃ r, (timeOfDay (.text "opens") (.text "closes") .null (.dateTime beforeMidnight)).translate
        (.ok threeQuarters) atMidnight = .ok r ∧
      (timeOfDay (.text "opens") (.text "closes") (.text "23:59:59.500000") .null).translate
        (.ok threeQuarters) atMidnight = .ok r ∧
      r.stages = [.timeBetween "opens" "closes" lastHalfSecond] := by
  obtain ⟨htext, -, -, -, -, hrange, hnow⟩ := times_of_day_agree
  have hiso : lastHalfSecond.isoText = "23:59:59.500000".toList := by decide +kernel
  have hstart := htext lastHalfSecond [] [] (List.forall_mem_nil _) (List.forall_mem_nil _)
  have hstop := htext lastHalfSecond [' '] ['\n'] (List.forall_mem_singleton.mpr (by decide))
    (List.forall_mem_singleton.mpr (by decide))
  rw [hiso] at hstart hstop
  constructor
  · obtain ⟨r, s, hr, hs, -, -, hpasses, -⟩ :=
      hrange .utc atMidnight "opens" "closes" lastHalfSecond lastHalfSecond hstart hstop
    refine ⟨r, s, hr, hs, ?_⟩
    simp only [hpasses]
    decide
  · have hclock : threeQuarters.ofDateTime? beforeMidnight =
        some ⟨.of leapDay lastHalfSecond, false⟩ := by decide
    obtain ⟨r, hr, hsame, hstages⟩ :=
      (hnow threeQuarters atMidnight "opens" "closes" beforeMidnight rfl).1 _ hclock .null
    rw [LocalTime.time_of, hiso] at hsame
    rw [LocalTime.time_of] at hstages
    exact ⟨r, hr, hsame, hstages⟩

end Rule

end FilterPipeline
