import FilterPipeline.Proofs.ZoneOffsets

/-!
When a moment can be stored. A moment whose place is another one than the zone is turned into
universal time and from there into a reading of the zone, and every reading goes back to
universal time to be stored. It gets lost exactly when one of these steps leaves the calendar. A
moment that is four days away from both ends of the calendar never gets lost, whatever the zone.
-/

namespace FilterPipeline

/-- The microseconds that are a reading of the years 1 to 9999. -/
def InCalendar (micros : Int) : Prop := 0 ≤ micros ∧ micros < calendarMicros

instance (micros : Int) : Decidable (InCalendar micros) :=
  inferInstanceAs (Decidable (_ ∧ _))

namespace LocalTime

theorem ofMicros?_eq_none_iff {n : Int} : ofMicros? n = none ↔ ¬ InCalendar n := by
  unfold ofMicros? InCalendar
  split <;> simp only [reduceCtorEq, true_iff, false_iff, Decidable.not_not] <;> omega

theorem micros_of_ofMicros? {n : Int} {w : LocalTime} (h : ofMicros? n = some w) :
    (w.micros : Int) = n := by
  unfold ofMicros? at h
  split at h
  · rename_i hn
    rw [Option.some.injEq] at h
    subst h
    change (n.toNat : Int) = n
    omega
  · exact absurd h (by simp)

theorem inCalendar (u : LocalTime) : InCalendar u.micros :=
  ⟨Int.natCast_nonneg _, by exact_mod_cast u.inRange⟩

theorem eq_of_micros {u v : LocalTime} (h : u.micros = v.micros) : u = v := by
  cases u
  cases v
  simpa using h

theorem exists_ofMicros? {n : Int} (h : InCalendar n) :
    ∃ w, ofMicros? n = some w ∧ (w.micros : Int) = n := by
  cases hw : ofMicros? n with
  | none => exact absurd h (ofMicros?_eq_none_iff.mp hw)
  | some w => exact ⟨w, rfl, micros_of_ofMicros? hw⟩

end LocalTime

/-- A reading with its time of day replaced, if another one is given. -/
def replaceTime (t : Option TimeOfDay) (micros : Int) : Int :=
  match t with
  | none => micros
  | some t => micros / microsPerDay * microsPerDay + t.micros

def Zoned.withTime (m : Zoned) : Option TimeOfDay → Zoned
  | none => m
  | some t => m.atTime t

theorem Zoned.micros_withTime (m : Zoned) (t : Option TimeOfDay) :
    ((m.withTime t).wall.micros : Int) = replaceTime t m.wall.micros := by
  cases t with
  | none => rfl
  | some t =>
    change ((m.wall.micros / microsPerDay * microsPerDay + t.micros : Nat) : Int) = _
    push_cast
    rfl

theorem Zoned.later_withTime (m : Zoned) (t : Option TimeOfDay) :
    (m.withTime t).later = m.later := by
  cases t <;> rfl

namespace DateTime

/-- The universal time of a moment that says its offset, in or out of the calendar. -/
def instant (m : DateTime) : Int := m.wall.micros - m.offset?.getD 0

theorem instant_eq {m : DateTime} {o : Int} (ho : m.offset? = some o) :
    m.instant = m.wall.micros - o := by rw [instant, ho, Option.getD_some]

/-- A moment that is no reading of a zone's clock says its offset. -/
theorem toUtc?_of_not_isLocalTo {m : DateTime} {z : Zone} (h : ¬ m.IsLocalTo z) :
    m.toUtc? = LocalTime.ofMicros? m.instant := by
  have hplace : m.place ≠ .unsaid := fun hplace => h (Or.inl hplace)
  have hoffset : ∃ o, m.offset? = some o := by
    unfold offset?
    cases hm : m.place with
    | unsaid => exact absurd hm hplace
    | offset o => exact ⟨_, rfl⟩
    | zone y => exact ⟨_, rfl⟩
  obtain ⟨o, ho⟩ := hoffset
  simp only [toUtc?, instant, ho, Option.bind_some, Option.getD_some, LocalTime.shift?,
    Int.sub_eq_add_neg]

end DateTime

namespace Zone

/-- The universal time of a reading, in or out of the calendar. -/
def universal (z : Zone) (later : Bool) (w : Int) : Int :=
  w - localOffsetFrom z.initialOffset later z.transitions w

/-- What the clock of a zone reads at a moment, in or out of the calendar, and whether for the
second time. -/
def readingOf (z : Zone) (m : DateTime) : Int × Bool :=
  if m.IsLocalTo z then (m.wall.micros, m.later)
  else (m.instant + (z.offsetAt m.instant).1, (z.offsetAt m.instant).2)

theorem readingOf_of_isLocalTo {z : Zone} {m : DateTime} (h : m.IsLocalTo z) :
    z.readingOf m = ((m.wall.micros : Int), m.later) := if_pos h

theorem readingOf_of_not_isLocalTo {z : Zone} {m : DateTime} (h : ¬ m.IsLocalTo z) :
    z.readingOf m = (m.instant + (z.offsetAt m.instant).1, (z.offsetAt m.instant).2) := if_neg h

theorem ofDateTime?_of_isLocalTo {z : Zone} {m : DateTime} (h : m.IsLocalTo z) :
    z.ofDateTime? m = some m.reading := if_pos h

theorem ofDateTime?_of_not_isLocalTo {z : Zone} {m : DateTime} (h : ¬ m.IsLocalTo z) :
    z.ofDateTime? m = (LocalTime.ofMicros? m.instant).bind z.ofUtc? := by
  rw [← DateTime.toUtc?_of_not_isLocalTo h]
  exact if_neg h

/-- A moment leaves the calendar on the way to its reading in the zone. -/
def LosesReading (z : Zone) (m : DateTime) : Prop :=
  ¬ m.IsLocalTo z ∧ (¬ InCalendar m.instant ∨ ¬ InCalendar (z.readingOf m).1)

/-- The universal time of a moment read in a zone, with another time of day if one is given. -/
def boundOf (z : Zone) (m : DateTime) (t : Option TimeOfDay) : Int :=
  z.universal (z.readingOf m).2 (replaceTime t (z.readingOf m).1)

/-- What is stored for a moment that is read in a zone. -/
def stored? (z : Zone) (m : DateTime) (t : Option TimeOfDay) : Option LocalTime :=
  (z.ofDateTime? m).bind fun w => z.toUtc? (w.withTime t)

theorem toUtc?_eq_none_iff (z : Zone) (m : Zoned) (t : Option TimeOfDay) :
    z.toUtc? (m.withTime t) = none ↔
      ¬ InCalendar (z.universal m.later (replaceTime t m.wall.micros)) := by
  unfold toUtc? LocalTime.shift?
  rw [LocalTime.ofMicros?_eq_none_iff, universal, localOffset, Zoned.later_withTime,
    Zoned.micros_withTime, ← Int.sub_eq_add_neg]

theorem ofUtc?_eq_none_iff (z : Zone) (u : LocalTime) :
    z.ofUtc? u = none ↔ ¬ InCalendar (u.micros + (z.offsetAt u.micros).1) := by
  unfold ofUtc? LocalTime.shift?
  rw [← LocalTime.ofMicros?_eq_none_iff]
  exact Option.map_eq_none_iff

/-- A moment gets lost exactly when it leaves the calendar on its way. -/
theorem stored?_eq_none_iff (z : Zone) (m : DateTime) (t : Option TimeOfDay) :
    z.stored? m t = none ↔ z.LosesReading m ∨ ¬ InCalendar (z.boundOf m t) := by
  unfold stored? LosesReading boundOf
  by_cases hlocal : m.IsLocalTo z
  · rw [ofDateTime?_of_isLocalTo hlocal, readingOf_of_isLocalTo hlocal, Option.bind_some,
      toUtc?_eq_none_iff]
    simp only [hlocal, not_true_eq_false, false_and, false_or]
    rfl
  · rw [ofDateTime?_of_not_isLocalTo hlocal, readingOf_of_not_isLocalTo hlocal]
    by_cases hu : InCalendar m.instant
    · obtain ⟨u, hread, hmicros⟩ := LocalTime.exists_ofMicros? hu
      rw [hread, ← hmicros, Option.bind_some]
      by_cases hw : InCalendar (u.micros + (z.offsetAt u.micros).1)
      · obtain ⟨w, hread', hmicros'⟩ := LocalTime.exists_ofMicros? hw
        have hzoned : z.ofUtc? u = some ⟨w, (z.offsetAt u.micros).2⟩ := by
          unfold ofUtc? LocalTime.shift?
          simp only [hread', Option.map_some]
        rw [hzoned, Option.bind_some, toUtc?_eq_none_iff, hmicros']
        simp only [hlocal, u.inCalendar, hw, not_true_eq_false, not_false_eq_true, or_self,
          and_false, false_or]
      · rw [(z.ofUtc?_eq_none_iff u).mpr hw, Option.bind_none]
        simp only [hlocal, hw, not_false_eq_true, or_true, and_self, true_or]
    · rw [LocalTime.ofMicros?_eq_none_iff.mpr hu, Option.bind_none, Option.bind_none]
      simp only [hlocal, hu, not_false_eq_true, true_or, and_self]

/-- What is stored is the universal time of the moment as it was read. -/
theorem micros_of_stored? {z : Zone} {m : DateTime} {t : Option TimeOfDay} {u : LocalTime}
    (h : z.stored? m t = some u) : (u.micros : Int) = z.boundOf m t := by
  obtain ⟨w, hw, hwu⟩ := Option.bind_eq_some_iff.mp h
  have hmicros : (u.micros : Int) = z.universal w.later (replaceTime t w.wall.micros) := by
    rw [LocalTime.micros_of_ofMicros? hwu, universal, localOffset, Zoned.later_withTime,
      Zoned.micros_withTime, ← Int.sub_eq_add_neg]
  suffices hread : z.readingOf m = ((w.wall.micros : Int), w.later) by rw [hmicros, boundOf, hread]
  by_cases hlocal : m.IsLocalTo z
  · rw [ofDateTime?_of_isLocalTo hlocal, Option.some.injEq] at hw
    rw [readingOf_of_isLocalTo hlocal, ← hw]
    rfl
  · rw [ofDateTime?_of_not_isLocalTo hlocal] at hw
    obtain ⟨s, hs, hsw⟩ := Option.bind_eq_some_iff.mp hw
    obtain ⟨wall, hwall, rfl⟩ := Option.map_eq_some_iff.mp hsw
    have hinstant := LocalTime.micros_of_ofMicros? hs
    have hreading := LocalTime.micros_of_ofMicros? hwall
    rw [readingOf_of_not_isLocalTo hlocal, ← hinstant, hreading]
    rfl

end Zone

/-- Four days or more lie between a moment and either end of the calendar. -/
structure DateTime.IsInner (m : DateTime) : Prop where
  late : 4 * microsPerDay ≤ m.wall.micros
  early : m.wall.micros + 4 * microsPerDay ≤ calendarMicros
  near : ∀ o ∈ m.offset?, IsWithinDay o

/-- Another time of the same day is less than a day away. -/
theorem isWithinDay_replaceTime (t : Option TimeOfDay) (w : Int) :
    IsWithinDay (replaceTime t w - w) := by
  unfold IsWithinDay
  cases t with
  | none =>
    simp only [replaceTime, Int.sub_self]
    decide
  | some t =>
    have ht := t.inRange
    simp only [replaceTime, microsPerDay] at ht ⊢
    omega

namespace Zone

variable {z : Zone} {m : DateTime}

theorem isWithinDay_readingOf (hz : z.IsBounded) (m : DateTime) :
    m.IsLocalTo z ∧ (z.readingOf m).1 = m.wall.micros ∨
      ¬ m.IsLocalTo z ∧ IsWithinDay ((z.readingOf m).1 - m.instant) := by
  by_cases hlocal : m.IsLocalTo z
  · exact Or.inl ⟨hlocal, by rw [readingOf_of_isLocalTo hlocal]⟩
  · refine Or.inr ⟨hlocal, ?_⟩
    rw [readingOf_of_not_isLocalTo hlocal, Int.add_comm, Int.add_sub_cancel]
    exact hz.offsetAt m.instant

theorem isWithinDay_instant (hm : m.IsInner) : IsWithinDay (m.wall.micros - m.instant) := by
  unfold DateTime.instant
  cases ho : m.offset? with
  | none =>
    rw [Option.getD_none, Int.sub_zero, Int.sub_self]
    decide
  | some o =>
    rw [Option.getD_some, Int.sub_sub_self]
    exact hm.near o ho

theorem inCalendar_of_inner (hz : z.IsBounded) (hm : m.IsInner) (t : Option TimeOfDay) :
    ¬ z.LosesReading m ∧ InCalendar (z.boundOf m t) := by
  have hinstant := isWithinDay_instant hm
  have htime := isWithinDay_replaceTime t (z.readingOf m).1
  have hback := hz.localOffsetFrom (z.readingOf m).2 (replaceTime t (z.readingOf m).1)
  obtain ⟨hlate, hearly, -⟩ := hm
  unfold LosesReading boundOf universal InCalendar
  unfold IsWithinDay at hinstant htime hback
  rcases isWithinDay_readingOf hz m with ⟨hlocal, hread⟩ | ⟨hlocal, hread⟩
  · simp only [hlocal, not_true_eq_false, false_and, not_false_eq_true, true_and]
    omega
  · unfold IsWithinDay at hread
    simp only [hlocal, not_false_eq_true, true_and]
    omega

theorem exists_stored (hz : z.IsBounded) (hm : m.IsInner) (t : Option TimeOfDay) :
    ∃ w u, z.ofDateTime? m = some w ∧ z.toUtc? (w.withTime t) = some u := by
  have hstored : z.stored? m t ≠ none := by
    rw [ne_eq, z.stored?_eq_none_iff]
    obtain ⟨hread, hbound⟩ := inCalendar_of_inner hz hm t
    exact fun hlost => hlost.elim hread fun hout => hout hbound
  obtain ⟨u, hu⟩ := Option.ne_none_iff_exists'.mp hstored
  obtain ⟨w, hw, hwu⟩ := Option.bind_eq_some_iff.mp hu
  exact ⟨w, u, hw, hwu⟩

end Zone

end FilterPipeline
