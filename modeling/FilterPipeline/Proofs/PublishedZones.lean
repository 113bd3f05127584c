import FilterPipeline.Host.Published
import FilterPipeline.Proofs.CivilOrder
import FilterPipeline.Proofs.ZoneClock
import Mathlib.Data.List.Nodup

/-!
The published zones are regular. Offsets and transitions are given in seconds there. No offset is
as long as a day and transitions are days apart, so what one change skips or repeats is over
before the next one. In a table that is looked up entry by entry; a yearly rule changes the
offset in two months that are not close to each other and not at an end of the year.
-/

namespace FilterPipeline

theorem isWithinDay_of_seconds {seconds : Int} (h : seconds.natAbs < 86400) :
    IsWithinDay (seconds * microsPerSecond) := by
  unfold IsWithinDay microsPerSecond microsPerDay
  omega

theorem isWithinDay_of_position {offsets : List Int} (h : ∀ o ∈ offsets, o.natAbs < 86400)
    (position : Nat) : IsWithinDay (offsets.getD position 0 * microsPerSecond) := by
  apply isWithinDay_of_seconds
  rw [List.getD_eq_getElem?_getD]
  rcases Nat.lt_or_ge position offsets.length with hp | hp
  · rw [List.getElem?_eq_getElem hp]
    exact h _ (List.getElem_mem hp)
  · rw [List.getElem?_eq_none hp]
    decide

/-- The offsets that a rule for the years after a table switches between, in seconds. -/
def TableEnd.offsets : TableEnd → List Int
  | .constant => []
  | .yearly _ _ rule => [rule.usual, rule.seasonal]

theorem YearlyRule.offset_of_mem {r : YearlyRule} {year : Nat} {t : Transition}
    (ht : t ∈ r.transitions year) :
    t.offset = r.usual * microsPerSecond ∨ t.offset = r.seasonal * microsPerSecond := by
  simp only [transitions] at ht
  split at ht <;> simp only [List.mem_cons, List.not_mem_nil, or_false] at ht <;>
    rcases ht with rfl | rfl <;> simp

theorem TableEnd.isWithinDay_of_mem {tableEnd : TableEnd}
    (h : ∀ o ∈ tableEnd.offsets, o.natAbs < 86400) {t : Transition}
    (ht : t ∈ tableEnd.transitions) : IsWithinDay t.offset := by
  cases tableEnd with
  | constant => exact absurd ht List.not_mem_nil
  | yearly after year rule =>
    have husual : rule.usual.natAbs < 86400 := h _ List.mem_cons_self
    have hseasonal : rule.seasonal.natAbs < 86400 :=
      h _ (List.mem_cons_of_mem _ List.mem_cons_self)
    obtain ⟨y, _, hy⟩ := List.mem_flatMap.mp (List.mem_filter.mp ht).1
    rcases YearlyRule.offset_of_mem hy with ho | ho
    · rw [ho]
      exact isWithinDay_of_seconds husual
    · rw [ho]
      exact isWithinDay_of_seconds hseasonal

namespace Zone

theorem isBounded_ofTable {name : String} {offsets : List Int} {table : List (Nat × Nat)}
    {tableEnd : TableEnd} (hoffsets : ∀ o ∈ offsets, o.natAbs < 86400)
    (hend : ∀ o ∈ tableEnd.offsets, o.natAbs < 86400) :
    (ofTable name offsets table tableEnd).IsBounded := by
  intro o ho
  rcases List.mem_cons.mp ho with rfl | ho
  · exact isWithinDay_of_position hoffsets 0
  · obtain ⟨t, ht, rfl⟩ := List.mem_map.mp ho
    rcases List.mem_append.mp ht with ht | ht
    · obtain ⟨⟨seconds, position⟩, _, rfl⟩ := List.mem_map.mp ht
      exact isWithinDay_of_position hoffsets position
    · exact TableEnd.isWithinDay_of_mem hend ht

theorem isBounded_regions : ∀ z ∈ regions, z.IsBounded := by
  simp only [regions, List.forall_mem_cons]
  refine ⟨?_, ?_, ?_, ?_, ?_, ?_, ?_, ?_, ?_, ?_, ?_, ?_, ?_, ?_, ?_, ?_, List.forall_mem_nil _⟩
  all_goals exact isBounded_ofTable (by decide) (by decide)

end Zone

/-- At least two days lie between two transitions. -/
def Transition.IsApart (s t : Transition) : Prop := s.instant + 2 * microsPerDay ≤ t.instant

namespace Zone

theorem bounds_of_mem_changesFrom {offset : Int} {ts : List Transition}
    (hoffset : IsWithinDay offset) (hts : ∀ t ∈ ts, IsWithinDay t.offset) {c : Change}
    (hc : c ∈ changesFrom offset ts) :
    (∃ t ∈ ts, c.instant = t.instant) ∧ IsWithinDay c.before ∧ IsWithinDay c.after := by
  induction ts generalizing offset with
  | nil => exact absurd hc List.not_mem_nil
  | cons t ts ih =>
    have ht := hts t List.mem_cons_self
    rcases List.mem_cons.mp hc with rfl | hc
    · exact ⟨⟨t, List.mem_cons_self, rfl⟩, hoffset, ht⟩
    · obtain ⟨⟨s, hs, hinstant⟩, hbounds⟩ :=
        ih ht (fun s hs => hts s (List.mem_cons_of_mem _ hs)) hc
      exact ⟨⟨s, List.mem_cons_of_mem _ hs, hinstant⟩, hbounds⟩

theorem pairwise_changesFrom {offset : Int} {ts : List Transition} (hoffset : IsWithinDay offset)
    (hts : ∀ t ∈ ts, IsWithinDay t.offset) (happart : ts.Pairwise Transition.IsApart) :
    (changesFrom offset ts).Pairwise fun c d => c.upper ≤ d.lower := by
  induction ts generalizing offset with
  | nil => exact List.Pairwise.nil
  | cons t ts ih =>
    obtain ⟨hnext, happart'⟩ := List.pairwise_cons.mp happart
    have ht := hts t List.mem_cons_self
    have hts' : ∀ s ∈ ts, IsWithinDay s.offset := fun s hs => hts s (List.mem_cons_of_mem _ hs)
    refine List.pairwise_cons.mpr ⟨fun d hd => ?_, ih ht hts' happart'⟩
    obtain ⟨⟨s, hs, hinstant⟩, hbefore, hafter⟩ := bounds_of_mem_changesFrom ht hts' hd
    have hgap := hnext s hs
    unfold Transition.IsApart at hgap
    unfold IsWithinDay at hoffset ht hbefore hafter
    simp only [Change.upper, Change.lower]
    omega

theorem IsBounded.isSpaced {z : Zone} (hz : z.IsBounded)
    (happart : z.transitions.Pairwise Transition.IsApart) : z.IsSpaced :=
  pairwise_changesFrom (hz _ List.mem_cons_self)
    (fun _ ht => hz _ (List.mem_cons_of_mem _ (List.mem_map_of_mem ht))) happart

end Zone

/-- The day of a year on which a month starts; the first day of the year is 0. -/
def monthStart (leap : Bool) (month : Nat) : Nat :=
  totalLength ((monthLengths leap).take (month - 1))

/-- The length of a month is that of some month, whatever its number. -/
theorem monthLength_bounds (leap : Bool) (month : Nat) :
    28 ≤ (monthLengths leap)[month]?.getD 28 ∧ (monthLengths leap)[month]?.getD 28 ≤ 31 := by
  have hall : ∀ length ∈ monthLengths leap, 28 ≤ length ∧ length ≤ 31 := by
    cases leap <;> decide
  cases h : (monthLengths leap)[month]? with
  | none => decide
  | some length => exact hall length (List.mem_of_getElem? h)

/-- A weekday of a month is a day of that month. -/
theorem YearlyDate.dayNumber_bounds {d : YearlyDate} (hweek : d.week ≤ 5) (year : Nat) :
    daysOfYears (year - 1) + monthStart (isLeapYear year) d.month ≤ d.dayNumber year ∧
      d.dayNumber year < daysOfYears (year - 1) + monthStart (isLeapYear year) d.month + 31 := by
  have hlength := monthLength_bounds (isLeapYear year) (d.month - 1)
  have hfirst : Civil.dayNumber ⟨year, d.month, 1⟩ =
      daysOfYears (year - 1) + monthStart (isLeapYear year) d.month := rfl
  unfold dayNumber
  dsimp only
  rw [hfirst]
  generalize (monthLengths (isLeapYear year))[d.month - 1]?.getD 28 = length at hlength
  split <;> omega

/-- Two months that start on the given days of a year are about two months apart, and neither is
at an end of the year. -/
def MonthsApart (first second : Nat) : Prop :=
  30 ≤ first ∧ first ≤ 310 ∧ 30 ≤ second ∧ second ≤ 310 ∧
    (first + 60 ≤ second ∨ second + 60 ≤ first)

instance (first second : Nat) : Decidable (MonthsApart first second) :=
  inferInstanceAs (Decidable (_ ∧ _))

/-- The two dates of a rule fall into months that are well apart, and no time or offset of it is
longer than a day. -/
def YearlyRule.IsSeasonal (r : YearlyRule) : Prop :=
  r.seasonStart.week ≤ 5 ∧ r.seasonEnd.week ≤ 5 ∧
    r.seasonStart.seconds.natAbs ≤ 86400 ∧ r.seasonEnd.seconds.natAbs ≤ 86400 ∧
    r.usual.natAbs < 86400 ∧ r.seasonal.natAbs < 86400 ∧
    ∀ leap : Bool,
      MonthsApart (monthStart leap r.seasonStart.month) (monthStart leap r.seasonEnd.month)

instance (r : YearlyRule) : Decidable r.IsSeasonal := inferInstanceAs (Decidable (_ ∧ _))

namespace YearlyRule

variable {r : YearlyRule} {year : Nat}

/-- The offset changes well inside of a year. -/
theorem instant_bounds (hr : r.IsSeasonal) {t : Transition} (ht : t ∈ r.transitions year) :
    (daysOfYears (year - 1) + 28 : Nat) * (microsPerDay : Int) ≤ t.instant ∧
      t.instant ≤ (daysOfYears (year - 1) + 343 : Nat) * (microsPerDay : Int) := by
  obtain ⟨hstartWeek, hendWeek, hstartTime, hendTime, husual, hseasonal, hmonths⟩ := hr
  obtain ⟨hstartLow, hstartHigh, hendLow, hendHigh, _⟩ := hmonths (isLeapYear year)
  have hstart := YearlyDate.dayNumber_bounds hstartWeek year
  have hend := YearlyDate.dayNumber_bounds hendWeek year
  have hcases : t.instant = r.seasonStart.wallMicros year - r.usual * microsPerSecond ∨
      t.instant = r.seasonEnd.wallMicros year - r.seasonal * microsPerSecond := by
    unfold transitions at ht
    dsimp only at ht
    split at ht <;> simp only [List.mem_cons, List.not_mem_nil, or_false] at ht <;>
      rcases ht with rfl | rfl <;> simp
  unfold YearlyDate.wallMicros at hcases
  simp only [microsPerDay, microsPerSecond] at hcases ⊢
  omega

theorem pairwise_transitions (hr : r.IsSeasonal) (year : Nat) :
    (r.transitions year).Pairwise Transition.IsApart := by
  obtain ⟨hstartWeek, hendWeek, hstartTime, hendTime, husual, hseasonal, hmonths⟩ := hr
  obtain ⟨_, _, _, _, hgap⟩ := hmonths (isLeapYear year)
  have hstart := YearlyDate.dayNumber_bounds hstartWeek year
  have hend := YearlyDate.dayNumber_bounds hendWeek year
  unfold transitions
  dsimp only
  split <;> rename_i horder <;>
    simp only [List.pairwise_cons, List.mem_singleton, List.not_mem_nil, forall_eq,
      false_imp_iff, implies_true, List.Pairwise.nil, and_true, Transition.IsApart,
      YearlyDate.wallMicros, microsPerDay, microsPerSecond] at horder ⊢ <;>
    omega

/-- The transitions of a rule are apart, within a year and from one year to another. -/
theorem pairwise_transitionsAfter (hr : r.IsSeasonal) (instant : Int) (hyear : 1 ≤ year) :
    (r.transitionsAfter instant year).Pairwise Transition.IsApart := by
  refine List.Pairwise.filter _ (List.pairwise_flatMap.mpr ⟨fun y _ => ?_, ?_⟩)
  · exact pairwise_transitions hr y
  · have hyears : (List.range' year (10000 - year)).Pairwise fun y y' => y < y' :=
      List.pairwise_lt_range' 1
    refine hyears.imp_of_mem fun {y y'} hy hy' hlt s hs t ht => ?_
    have hlow : year ≤ y := (List.mem_range'_1.mp hy).1
    have hdays := daysOfYears_add_le (show y - 1 < y' - 1 by omega)
    have hs := (instant_bounds hr hs).2
    have ht := (instant_bounds hr ht).1
    simp only [Transition.IsApart, microsPerDay] at hs ht ⊢
    omega

end YearlyRule

/-- At least two days lie between two entries of a table. -/
def EntriesApart (d e : Nat × Nat) : Prop := d.1 + 172800 ≤ e.1

instance (d e : Nat × Nat) : Decidable (EntriesApart d e) :=
  inferInstanceAs (Decidable (d.1 + 172800 ≤ e.1))

instance : Trans EntriesApart EntriesApart EntriesApart where
  trans {d e f} hde hef := by
    unfold EntriesApart at *
    omega

/-- What follows a table keeps away from its last transition. -/
def TableEnd.IsApartFrom (table : List (Nat × Nat)) : TableEnd → Prop
  | .constant => True
  | .yearly after year rule =>
      (∀ e ∈ table, e.1 ≤ after) ∧ 1 ≤ year ∧ rule.IsSeasonal ∧
        (∀ t ∈ rule.transitions year, instantOfSeconds after < t.instant →
          instantOfSeconds after + 2 * microsPerDay ≤ t.instant) ∧
        instantOfSeconds after + 2 * microsPerDay ≤
          (daysOfYears year + 28 : Nat) * (microsPerDay : Int)

instance (table : List (Nat × Nat)) : (tableEnd : TableEnd) →
    Decidable (tableEnd.IsApartFrom table)
  | .constant => inferInstanceAs (Decidable True)
  | .yearly _ _ _ => inferInstanceAs (Decidable (_ ∧ _))

theorem TableEnd.pairwise_transitions {table : List (Nat × Nat)} {tableEnd : TableEnd}
    (h : tableEnd.IsApartFrom table) : tableEnd.transitions.Pairwise Transition.IsApart := by
  cases tableEnd with
  | constant => exact List.Pairwise.nil
  | yearly after year rule =>
    obtain ⟨_, hyear, hrule, _⟩ := h
    exact YearlyRule.pairwise_transitionsAfter hrule _ hyear

theorem TableEnd.isApart_of_mem {table : List (Nat × Nat)} {tableEnd : TableEnd}
    (h : tableEnd.IsApartFrom table) {e : Nat × Nat} (he : e ∈ table) {t : Transition}
    (ht : t ∈ tableEnd.transitions) :
    instantOfSeconds e.1 + 2 * microsPerDay ≤ t.instant := by
  cases tableEnd with
  | constant => exact absurd ht List.not_mem_nil
  | yearly after year rule =>
    obtain ⟨htable, hyear, hrule, hfirst, hlater⟩ := h
    obtain ⟨hmem, hafter⟩ := List.mem_filter.mp ht
    obtain ⟨y, hy, hty⟩ := List.mem_flatMap.mp hmem
    have hlast := htable e he
    have hgap : instantOfSeconds after + 2 * microsPerDay ≤ t.instant := by
      rcases Nat.eq_or_lt_of_le (List.mem_range'_1.mp hy).1 with rfl | hlt
      · exact hfirst t hty (of_decide_eq_true hafter)
      · have hbound := (YearlyRule.instant_bounds hrule hty).1
        have hdays : daysOfYears year ≤ daysOfYears (y - 1) := by
          rcases Nat.eq_or_lt_of_le (show year ≤ y - 1 by omega) with heq | hlt
          · exact Nat.le_of_eq (congrArg daysOfYears heq)
          · have := daysOfYears_add_le hlt
            omega
        simp only [microsPerDay] at hbound hlater ⊢
        omega
    simp only [instantOfSeconds, microsPerSecond, microsPerDay] at hgap ⊢
    omega

namespace Zone

theorem isSpaced_ofTable {name : String} {offsets : List Int} {table : List (Nat × Nat)}
    {tableEnd : TableEnd} (hbounded : (ofTable name offsets table tableEnd).IsBounded)
    (htable : table.IsChain EntriesApart) (hend : tableEnd.IsApartFrom table) :
    (ofTable name offsets table tableEnd).IsSpaced := by
  refine hbounded.isSpaced (List.pairwise_append.mpr ⟨?_, TableEnd.pairwise_transitions hend, ?_⟩)
  · refine List.pairwise_map.mpr ((List.isChain_iff_pairwise.mp htable).imp fun {d e} hde => ?_)
    unfold EntriesApart at hde
    simp only [Transition.IsApart, instantOfSeconds, microsPerSecond, microsPerDay]
    omega
  · intro s hs t ht
    obtain ⟨e, he, rfl⟩ := List.mem_map.mp hs
    exact TableEnd.isApart_of_mem hend he ht

end Zone

theorem YearlyRule.dvd_of_mem {r : YearlyRule} {year : Nat} {t : Transition}
    (ht : t ∈ r.transitions year) : 1000 ∣ t.instant ∧ 1000 ∣ t.offset := by
  unfold transitions at ht
  dsimp only at ht
  split at ht <;> simp only [List.mem_cons, List.not_mem_nil, or_false] at ht <;>
    rcases ht with rfl | rfl <;>
    simp only [YearlyDate.wallMicros, microsPerDay, microsPerSecond] <;> omega

theorem TableEnd.dvd_of_mem {tableEnd : TableEnd} {t : Transition}
    (ht : t ∈ tableEnd.transitions) : 1000 ∣ t.instant ∧ 1000 ∣ t.offset := by
  cases tableEnd with
  | constant => exact absurd ht List.not_mem_nil
  | yearly after year rule =>
    obtain ⟨y, _, hy⟩ := List.mem_flatMap.mp (List.mem_filter.mp ht).1
    exact YearlyRule.dvd_of_mem hy

namespace Zone

/-- Tables count in seconds. -/
theorem isRegular_ofTable {name : String} {offsets : List Int} {table : List (Nat × Nat)}
    {tableEnd : TableEnd} (hspaced : (ofTable name offsets table tableEnd).IsSpaced) :
    (ofTable name offsets table tableEnd).IsRegular where
  spaced := hspaced
  initialOffset := by
    simp only [ofTable, microsPerSecond]
    omega
  transitions t ht := by
    rcases List.mem_append.mp ht with ht | ht
    · obtain ⟨e, _, rfl⟩ := List.mem_map.mp ht
      simp only [instantOfSeconds, microsPerSecond]
      omega
    · exact TableEnd.dvd_of_mem ht

theorem isRegular_regions : ∀ z ∈ regions, z.IsRegular := by
  have hbounded := isBounded_regions
  simp only [regions, List.forall_mem_cons] at hbounded ⊢
  obtain ⟨h1, h2, h3, h4, h5, h6, h7, h8, h9, h10, h11, h12, h13, h14, h15, h16, _⟩ := hbounded
  refine ⟨?_, ?_, ?_, ?_, ?_, ?_, ?_, ?_, ?_, ?_, ?_, ?_, ?_, ?_, ?_, ?_, List.forall_mem_nil _⟩
  all_goals
    exact isRegular_ofTable
      (isSpaced_ofTable (by assumption) (by decide +kernel) (by decide +kernel))

theorem isRegular_utc : utc.IsRegular where
  spaced := List.Pairwise.nil
  initialOffset := by decide
  transitions t ht := absurd ht List.not_mem_nil

end Zone

namespace Host

/-- The host with a reader of dates that keeps every offset. -/
@[reducible] def exact : Host := { published with keepsShortOffsets := true }

theorem zone_published {name : String} {z : Zone} (h : published.zone name = .ok z) :
    z ∈ Zone.regions := by
  unfold published at h
  dsimp only at h
  cases hfind : Zone.regions.find? (·.name == name) with
  | none => simp [hfind] at h
  | some y =>
    simp only [hfind, Except.ok.injEq] at h
    exact h ▸ List.mem_of_find?_eq_some hfind

theorem boundsOffsets_published : BoundsOffsets := fun _ z h =>
  Zone.isBounded_regions z (zone_published h)

end Host

end FilterPipeline
