import FilterPipeline.Calendar.Date

/-!
The order of calendar dates. Years follow each other with the days of their months in between,
so the number of a day finds its year, month and day of the month, and of two days the earlier
one has the earlier year, in the same year the earlier month, and in the same month the earlier
day.
-/

namespace FilterPipeline

theorem totalLength_monthLengths (leap : Bool) :
    totalLength (monthLengths leap) = if leap then 366 else 365 := by
  cases leap <;> rfl

theorem isLeapYear_iff (year : Nat) :
    isLeapYear year = true ↔ year % 4 = 0 ∧ (year % 100 ≠ 0 ∨ year % 400 = 0) := by
  simp [isLeapYear]

/-- A year adds the days of its months. -/
theorem daysOfYears_succ (years : Nat) :
    daysOfYears (years + 1) =
      daysOfYears years + totalLength (monthLengths (isLeapYear (years + 1))) := by
  rw [totalLength_monthLengths]
  unfold daysOfYears
  by_cases h4 : (years + 1) % 4 = 0
  · by_cases h100 : (years + 1) % 100 = 0
    · by_cases h400 : (years + 1) % 400 = 0
      · rw [if_pos ((isLeapYear_iff _).mpr ⟨h4, Or.inr h400⟩)]
        omega
      · rw [if_neg fun h => ((isLeapYear_iff _).mp h).2.elim (· h100) h400]
        omega
    · rw [if_pos ((isLeapYear_iff _).mpr ⟨h4, Or.inl h100⟩)]
      omega
  · have hquarter : (years + 1) / 4 = years / 4 := by omega
    have hcentury : (years + 1) / 100 = years / 100 := by omega
    have hcycle : (years + 1) / 400 = years / 400 := by omega
    rw [if_neg fun h => h4 ((isLeapYear_iff _).mp h).1, hquarter, hcentury, hcycle]
    omega

theorem daysOfYears_add_le {before after : Nat} (h : before < after) :
    daysOfYears before + 365 ≤ daysOfYears after := by
  induction after with
  | zero => omega
  | succ after ih =>
    have hyear : 365 ≤ totalLength (monthLengths (isLeapYear (after + 1))) := by
      rw [totalLength_monthLengths]
      split <;> omega
    rw [daysOfYears_succ]
    rcases Nat.lt_or_eq_of_le (Nat.lt_succ_iff.mp h) with hlt | rfl
    · have := ih hlt
      omega
    · omega

namespace Date

/-- A day lies in the year after the full years before it. -/
theorem yearsBefore_spec (dayNumber : Nat) :
    daysOfYears (yearsBefore dayNumber) ≤ dayNumber ∧
      dayNumber < daysOfYears (yearsBefore dayNumber + 1) := by
  unfold yearsBefore
  dsimp only
  generalize hguess : 400 * dayNumber / 146097 = guess
  have hlow : 146097 * guess ≤ 400 * dayNumber := by omega
  have hhigh : 400 * dayNumber < 146097 * (guess + 1) := by omega
  split
  · rename_i h
    refine ⟨h, ?_⟩
    unfold daysOfYears
    omega
  · rename_i h
    refine ⟨?_, by omega⟩
    unfold daysOfYears
    omega

theorem yearsBefore_mono {m n : Nat} (h : m ≤ n) : yearsBefore m ≤ yearsBefore n := by
  rcases Nat.lt_or_ge (yearsBefore n) (yearsBefore m) with hlt | hle
  · have hm := (yearsBefore_spec m).1
    have hn := (yearsBefore_spec n).2
    rcases Nat.lt_or_eq_of_le (show yearsBefore n + 1 ≤ yearsBefore m from hlt) with hgap | heq
    · have := daysOfYears_add_le hgap
      omega
    · rw [← heq] at hm
      omega
  · exact hle

/-- Later days have later months, or later days in the same month. -/
theorem splitMonths_lt (lengths : List Nat) {m n : Nat} (h : m < n) :
    (splitMonths lengths m).1 < (splitMonths lengths n).1 ∨
      (splitMonths lengths m).1 = (splitMonths lengths n).1 ∧
        (splitMonths lengths m).2 < (splitMonths lengths n).2 := by
  induction lengths generalizing m n with
  | nil => exact Or.inr ⟨rfl, h⟩
  | cons length rest ih =>
    unfold splitMonths
    by_cases hn : n < length
    · rw [if_pos hn, if_pos (Nat.lt_trans h hn)]
      exact Or.inr ⟨rfl, h⟩
    · rw [if_neg hn]
      by_cases hm : m < length
      · rw [if_pos hm]
        exact Or.inl (Nat.succ_pos _)
      · rw [if_neg hm]
        rcases ih (show m - length < n - length by omega) with hlt | ⟨heq, hlt⟩
        · exact Or.inl (Nat.succ_lt_succ hlt)
        · exact Or.inr ⟨congrArg Nat.succ heq, hlt⟩

end Date

/-- A date comes before another one: by its year, then by its month, then by its day. -/
def Civil.Before (c d : Civil) : Prop :=
  c.year < d.year ∨ c.year = d.year ∧ (c.month < d.month ∨ c.month = d.month ∧ c.day < d.day)

namespace Date

theorem eq_iff {d e : Date} : d = e ↔ d.dayNumber = e.dayNumber := by
  cases d
  cases e
  simp

theorem civil_before_of_lt {d e : Date} (h : d.dayNumber < e.dayNumber) :
    d.civil.Before e.civil := by
  unfold civil Civil.Before
  dsimp only
  rcases Nat.lt_or_eq_of_le (yearsBefore_mono (Nat.le_of_lt h)) with hlt | heq
  · exact Or.inl (Nat.succ_lt_succ hlt)
  · refine Or.inr ⟨congrArg Nat.succ heq, ?_⟩
    have hd := (yearsBefore_spec d.dayNumber).1
    rw [heq] at hd ⊢
    rcases splitMonths_lt (monthLengths (isLeapYear (yearsBefore e.dayNumber + 1)))
      (show d.dayNumber - daysOfYears (yearsBefore e.dayNumber) <
        e.dayNumber - daysOfYears (yearsBefore e.dayNumber) by omega) with hmonth | ⟨hmonth, hday⟩
    · exact Or.inl (Nat.succ_lt_succ hmonth)
    · exact Or.inr ⟨congrArg Nat.succ hmonth, Nat.succ_lt_succ hday⟩

/-- Days are numbered in the order of the calendar. -/
theorem civil_before_iff {d e : Date} : d.civil.Before e.civil ↔ d.dayNumber < e.dayNumber := by
  constructor
  · intro h
    rcases Nat.lt_trichotomy d.dayNumber e.dayNumber with hlt | heq | hgt
    · exact hlt
    · rw [eq_iff.mpr heq, Civil.Before] at h
      omega
    · have hback := civil_before_of_lt hgt
      unfold Civil.Before at h hback
      omega
  · exact civil_before_of_lt

end Date

end FilterPipeline
