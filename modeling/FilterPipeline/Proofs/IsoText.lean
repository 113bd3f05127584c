import FilterPipeline.Calendar.Iso
import FilterPipeline.Proofs.CivilOrder
import FilterPipeline.Text.Blank
import Mathlib.Algebra.Ring.Nat
import Mathlib.Data.List.Induction
import Mathlib.Tactic.ByContra

/-!
Reading what is written in the ISO format. Dates and times are read back as they were, for every
year of the calendar and to the microsecond. An offset is read back to the microsecond, too, by a
reader that keeps short offsets. Any other reader keeps nothing of an offset of less than a second,
so that a moment with such an offset is read as one in universal time.
-/

namespace FilterPipeline

open Text

namespace Text

theorem isAsciiDigit_digitChar (d : Nat) : isAsciiDigit (digitChar d) = true := by
  have hall : ∀ k < 10, isAsciiDigit (Char.ofNat ('0'.toNat + k)) = true := by decide
  exact hall (d % 10) (Nat.mod_lt _ (by decide))

theorem asciiDigitValue_digitChar (d : Nat) : asciiDigitValue (digitChar d) = d % 10 := by
  have hall : ∀ k < 10, asciiDigitValue (Char.ofNat ('0'.toNat + k)) = k := by decide
  exact hall (d % 10) (Nat.mod_lt _ (by decide))

theorem length_padded (width n : Nat) : (padded width n).length = width := by
  induction width generalizing n with
  | zero => rfl
  | succ width ih => rw [padded, List.length_append, ih, List.length_singleton]

theorem isAsciiDigit_of_mem_padded {width n : Nat} {c : Char} (h : c ∈ padded width n) :
    isAsciiDigit c = true := by
  induction width generalizing n with
  | zero => exact absurd h List.not_mem_nil
  | succ width ih =>
    rcases List.mem_append.mp h with h | h
    · exact ih h
    · rw [List.mem_singleton.mp h]
      exact isAsciiDigit_digitChar n

theorem asciiNumber_padded (width n : Nat) : asciiNumber (padded width n) = n % 10 ^ width := by
  induction width generalizing n with
  | zero => simp [padded, asciiNumber, ofDigits, Nat.mod_one]
  | succ width ih =>
    have hstep : asciiNumber (padded (width + 1) n) =
        10 * asciiNumber (padded width (n / 10)) + n % 10 := by
      simp [padded, asciiNumber, ofDigits, asciiDigitValue_digitChar]
    rw [hstep, ih, Nat.pow_succ', Nat.mod_mul, Nat.add_comm]

theorem asciiNumber_lt {ds : List Char} (hds : ∀ c ∈ ds, isAsciiDigit c = true) :
    asciiNumber ds < 10 ^ ds.length := by
  induction ds using List.reverseRecOn with
  | nil => decide
  | append_singleton ds d ih =>
    have hfront := ih fun c hc => hds c (List.mem_append_left _ hc)
    have hdigit : 48 ≤ d.toNat ∧ d.toNat ≤ 57 :=
      of_decide_eq_true (hds d (List.mem_append_right _ (List.mem_singleton.mpr rfl)))
    have hvalue : asciiDigitValue d < 10 := by
      simp only [asciiDigitValue]
      change d.toNat - 48 < 10
      omega
    have hstep : asciiNumber (ds ++ [d]) = 10 * asciiNumber ds + asciiDigitValue d := by
      simp [asciiNumber, ofDigits]
    rw [hstep, List.length_append, List.length_singleton, Nat.pow_succ]
    omega

theorem takeDigits?_append {ds : List Char} (hds : ∀ c ∈ ds, isAsciiDigit c = true)
    (rest : List Char) : takeDigits? ds.length (ds ++ rest) = some (ds, rest) := by
  induction ds with
  | nil => rfl
  | cons c ds ih =>
    rw [List.length_cons, List.cons_append, takeDigits?, if_pos (hds c List.mem_cons_self),
      ih fun d hd => hds d (List.mem_cons_of_mem _ hd)]
    rfl

/-- A number that fits into its places is taken from them again. -/
theorem takeNumber?_padded {width n : Nat} (h : n < 10 ^ width) (rest : List Char) :
    takeNumber? width (padded width n ++ rest) = some (n, rest) := by
  have htake : takeDigits? width (padded width n ++ rest) = some (padded width n, rest) := by
    have hdigits : takeDigits? (padded width n).length (padded width n ++ rest) =
        some (padded width n, rest) :=
      takeDigits?_append (fun _ => isAsciiDigit_of_mem_padded) rest
    rwa [length_padded] at hdigits
  rw [takeNumber?, htake, Option.map_some]
  dsimp only
  rw [asciiNumber_padded, Nat.mod_eq_of_lt h]

theorem padded_two (n : Nat) : padded 2 n = [digitChar (n / 10), digitChar n] := rfl

end Text

namespace Date

/-- A day of some months lies in one of them. -/
theorem splitMonths_spec (lengths : List Nat) {n : Nat} (h : n < totalLength lengths) :
    ∃ length, lengths[(splitMonths lengths n).1]? = some length ∧
      (splitMonths lengths n).2 < length ∧
      totalLength (lengths.take (splitMonths lengths n).1) + (splitMonths lengths n).2 = n := by
  induction lengths generalizing n with
  | nil => exact absurd h (Nat.not_lt_zero n)
  | cons length rest ih =>
    unfold splitMonths
    by_cases hn : n < length
    · rw [if_pos hn]
      exact ⟨length, rfl, hn, Nat.zero_add n⟩
    · rw [if_neg hn]
      rw [totalLength] at h
      obtain ⟨l, hl, hday, hsum⟩ := ih (show n - length < totalLength rest by omega)
      refine ⟨l, hl, hday, ?_⟩
      dsimp only
      rw [List.take_succ_cons, totalLength]
      omega

theorem yearsBefore_lt (d : Date) : yearsBefore d.dayNumber < 9999 := by
  have hspec := (yearsBefore_spec d.dayNumber).1
  have hrange := d.inRange
  have hlast : daysOfYears 9999 = calendarDays := by decide
  by_contra hle
  have hdays : daysOfYears 9999 ≤ daysOfYears (yearsBefore d.dayNumber) := by
    rcases Nat.lt_or_eq_of_le (Nat.not_lt.mp hle) with hlt | heq
    · exact Nat.le_of_add_right_le (daysOfYears_add_le hlt)
    · exact Nat.le_of_eq (congrArg daysOfYears heq)
  omega

/-- A date is a day of a month of a year of the calendar, and its number is found from these. -/
theorem civil_spec (d : Date) :
    (1 ≤ d.civil.year ∧ d.civil.year ≤ 9999) ∧ 1 ≤ d.civil.month ∧ 1 ≤ d.civil.day ∧
      (∃ length, (monthLengths (isLeapYear d.civil.year))[d.civil.month - 1]? = some length ∧
        d.civil.day ≤ length) ∧ d.civil.dayNumber = d.dayNumber := by
  have hyears := yearsBefore_spec d.dayNumber
  rw [daysOfYears_succ] at hyears
  obtain ⟨length, hlength, hday, hsum⟩ :=
    splitMonths_spec (monthLengths (isLeapYear (yearsBefore d.dayNumber + 1)))
      (show d.dayNumber - daysOfYears (yearsBefore d.dayNumber) <
        totalLength (monthLengths (isLeapYear (yearsBefore d.dayNumber + 1))) by omega)
  refine ⟨⟨Nat.succ_pos _, d.yearsBefore_lt⟩, Nat.succ_pos _, Nat.succ_pos _,
    ⟨length, hlength, hday⟩, ?_⟩
  simp only [Civil.dayNumber, Civil.dayOfYear, civil, Nat.add_sub_cancel]
  rw [hsum]
  omega

theorem ofCivil?_civil (d : Date) : ofCivil? d.civil = some d := by
  obtain ⟨hyear, hmonth, hday, ⟨length, hlength, hle⟩, hnumber⟩ := d.civil_spec
  have hvalid : d.civil.isValid = true := by
    simp [Civil.isValid, hyear, hmonth, hday, hlength, hle]
  rw [ofCivil?, if_pos hvalid, hnumber, ofDayNumber?, dif_pos ⟨by omega, d.inRange⟩]
  rfl

/-- The parts of a date fit into the places that a text has for them. -/
theorem civil_lt (d : Date) :
    d.civil.year < 10 ^ 4 ∧ d.civil.month < 10 ^ 2 ∧ d.civil.day < 10 ^ 2 := by
  obtain ⟨hyear, -, -, ⟨length, hlength, hle⟩, -⟩ := d.civil_spec
  have hmonth : d.civil.month - 1 < 12 := by
    obtain ⟨hlt, -⟩ := List.getElem?_eq_some_iff.mp hlength
    exact hlt
  have hall : ∀ leap, ∀ l ∈ monthLengths leap, l ≤ 31 := by decide
  have hlast := hall _ length (List.mem_of_getElem? hlength)
  omega

end Date

theorem TimeOfDay.ofClock?_parts (t : TimeOfDay) :
    ofClock? t.hour t.minute t.second t.micro = some t := by
  have ht := t.inRange
  simp only [microsPerDay] at ht
  have hsum :
      ((t.hour * 60 + t.minute) * 60 + t.second) * microsPerSecond + t.micro = t.micros := by
    simp only [hour, minute, second, micro, microsPerSecond]
    omega
  unfold ofClock?
  simp only [hsum]
  rw [dif_pos]
  refine ⟨?_, ?_, ?_, ?_, t.inRange⟩ <;>
    simp only [hour, minute, second, micro, microsPerSecond] <;> omega

theorem LocalTime.of_date_time (w : LocalTime) : of w.date w.time = w := by
  cases w
  simp only [of, date, time, Nat.div_add_mod']

namespace Iso

theorem readDate?_isoText (d : Date) (rest : List Char) :
    readDate? (d.isoText ++ rest) = some (d, rest) := by
  obtain ⟨hyear, hmonth, hday⟩ := d.civil_lt
  have htext : d.isoText ++ rest = padded 4 d.civil.year ++
      '-' :: (padded 2 d.civil.month ++ '-' :: (padded 2 d.civil.day ++ rest)) := by
    simp [Date.isoText]
  have hmonthDay : readMonthDay? d.civil.year true
      (padded 2 d.civil.month ++ '-' :: (padded 2 d.civil.day ++ rest)) = some (d, rest) := by
    simp only [readMonthDay?, takeNumber?_padded hmonth, takeNumber?_padded hday,
      Option.bind_eq_bind, Option.bind_some, if_true, d.ofCivil?_civil]
    rfl
  -- A month begins with a digit, so that it is not taken for a week.
  have hweek : digitChar (d.civil.month / 10) ≠ 'W' := by
    intro h
    have hdigit := isAsciiDigit_digitChar (d.civil.month / 10)
    rw [h] at hdigit
    exact absurd hdigit (by decide)
  rw [htext, readDate?, takeNumber?_padded hyear]
  simp only [Option.bind_eq_bind, Option.bind_some]
  rw [← hmonthDay, padded_two]
  simp [hweek]

theorem readFraction?_padded {micro : Nat} (h : micro < 10 ^ 6) :
    readFraction? (padded 6 micro) = some (micro, true) := by
  have hdigits : (padded 6 micro).all isAsciiDigit = true :=
    List.all_eq_true.mpr fun _ => isAsciiDigit_of_mem_padded
  have htake : (padded 6 micro).take 6 = padded 6 micro :=
    List.take_of_length_le (Nat.le_of_eq (length_padded 6 micro))
  have hdrop : (padded 6 micro).drop 6 = [] :=
    List.drop_eq_nil_of_le (Nat.le_of_eq (length_padded 6 micro))
  simp only [readFraction?, htake, hdrop, if_pos hdigits, length_padded, asciiNumber_padded,
    Nat.mod_eq_of_lt h]
  simp [atEnd]

theorem readClock?_minutes {hour minute : Nat} (hhour : hour < 10 ^ 2)
    (hminute : minute < 10 ^ 2) :
    readClock? (padded 2 hour ++ ':' :: padded 2 minute) = some ⟨hour, minute, 0, 0, true⟩ := by
  have hfield : fieldEnd? true (':' :: padded 2 minute) = some (.field (padded 2 minute)) := rfl
  have hlast := takeNumber?_padded hminute []
  rw [List.append_nil] at hlast
  rw [readClock?]
  simp only [takeNumber?_padded hhour, hlast, Option.bind_eq_bind, Option.bind_some,
    List.head?_cons, beq_self_eq_true, hfield]
  rfl

theorem readClock?_seconds {hour minute second micro : Nat} (hhour : hour < 10 ^ 2)
    (hminute : minute < 10 ^ 2) (hsecond : second < 10 ^ 2) (hmicro : micro < 10 ^ 6) :
    readClock? (padded 2 hour ++ ':' :: padded 2 minute ++ ':' :: padded 2 second ++
      fractionText micro) = some ⟨hour, minute, second, micro, true⟩ := by
  have htext : padded 2 hour ++ ':' :: padded 2 minute ++ ':' :: padded 2 second ++
      fractionText micro = padded 2 hour ++ ':' :: (padded 2 minute ++
        ':' :: (padded 2 second ++ fractionText micro)) := by simp
  have hfield (n : Nat) (rest : List Char) : fieldEnd? true (':' :: (padded 2 n ++ rest)) =
      some (.field (padded 2 n ++ rest)) := rfl
  rw [htext, readClock?]
  simp only [takeNumber?_padded hhour, takeNumber?_padded hminute, takeNumber?_padded hsecond,
    Option.bind_eq_bind, Option.bind_some, List.head?_cons, beq_self_eq_true, hfield]
  by_cases hzero : micro = 0
  · subst hzero
    rfl
  · have hfraction : fieldEnd? true (fractionText micro) = some (.fraction (padded 6 micro)) := by
      rw [fractionText, if_neg hzero]
      rfl
    rw [hfraction]
    simp only [Option.bind_some, readFraction?_padded hmicro]
    rfl

theorem readClock?_isoText (t : TimeOfDay) :
    readClock? t.isoText = some ⟨t.hour, t.minute, t.second, t.micro, true⟩ := by
  have ht := t.inRange
  simp only [microsPerDay] at ht
  refine readClock?_seconds ?_ ?_ ?_ ?_ <;>
    simp only [TimeOfDay.hour, TimeOfDay.minute, TimeOfDay.second, TimeOfDay.micro,
      microsPerSecond] <;> omega

end Iso

/-- The offset that is read from the text of an offset. -/
def Offset.asRead (keepsShort : Bool) (o : Offset) : Offset :=
  if keepsShort ∨ microsPerSecond ≤ o.micros.natAbs then o else .utc

/-- The text of an offset after its sign. -/
def offsetClock (n : Nat) : List Char :=
  let seconds := n / microsPerSecond
  let micro := n % microsPerSecond
  padded 2 (seconds / 3600) ++ ':' :: padded 2 (seconds / 60 % 60) ++
    (if seconds % 60 = 0 ∧ micro = 0 then [] else ':' :: padded 2 (seconds % 60)) ++
    fractionText micro

theorem offsetText_eq (micros : Int) :
    offsetText micros = (if micros < 0 then '-' else '+') :: offsetClock micros.natAbs := rfl

namespace Iso

/-- The parts of an offset are read back, and nothing is left over. -/
theorem readClock?_offsetClock {n : Nat} (hn : n < microsPerDay) :
    ∃ r, readClock? (offsetClock n) = some r ∧ r.complete = true ∧
      (r.hour * 60 + r.minute) * 60 + r.second = n / microsPerSecond ∧
      r.micro = n % microsPerSecond := by
  simp only [microsPerDay] at hn
  unfold offsetClock
  dsimp only
  split
  · rename_i hwhole
    have hfraction : fractionText (n % microsPerSecond) = [] := if_pos hwhole.2
    rw [hfraction, List.append_nil, List.append_nil]
    refine ⟨_, readClock?_minutes ?_ ?_, rfl, ?_, hwhole.2.symm⟩ <;>
      simp only [microsPerSecond] at hwhole ⊢ <;> omega
  · refine ⟨_, readClock?_seconds ?_ ?_ ?_ ?_, rfl, ?_, rfl⟩ <;>
      simp only [microsPerSecond] <;> omega

theorem readOffset?_offsetClock (keepsShort : Bool) (o : Offset) :
    readOffset? keepsShort (o.micros < 0) (offsetClock o.micros.natAbs) =
      some (o.asRead keepsShort) := by
  obtain ⟨r, hclock, hcomplete, hseconds, hmicro⟩ := readClock?_offsetClock o.inRange
  rw [readOffset?, hclock]
  simp only [Option.bind_eq_bind, Option.bind_some, hcomplete, Bool.not_true, Bool.false_eq_true,
    if_false, hseconds]
  have hsecond : o.micros.natAbs / microsPerSecond = 0 ↔ ¬ microsPerSecond ≤ o.micros.natAbs := by
    simp only [microsPerSecond]
    omega
  by_cases hlost : o.micros.natAbs / microsPerSecond = 0 ∧ (!keepsShort) = true
  · rw [if_pos hlost, Offset.asRead, if_neg]
    simpa [hsecond] using hlost.symm
  · have hsize : ((o.micros.natAbs / microsPerSecond : Nat) : Int) * microsPerSecond + r.micro =
        (o.micros.natAbs : Int) := by
      rw [hmicro]
      simp only [microsPerSecond]
      omega
    have hsigned : (if decide (o.micros < 0) = true then -(o.micros.natAbs : Int)
        else (o.micros.natAbs : Int)) = o.micros := by
      split <;> rename_i hneg <;> simp only [decide_eq_true_iff] at hneg <;> omega
    have hkept : keepsShort = true ∨ microsPerSecond ≤ o.micros.natAbs := by
      by_contra hnot
      rw [not_or] at hnot
      exact hlost ⟨hsecond.mpr hnot.2, by simpa using hnot.1⟩
    rw [if_neg hlost, hsize, hsigned, Offset.asRead, if_pos hkept, Offset.ofMicros?,
      dif_pos o.inRange]

end Iso

/-- The ways to say the offset of a clock after a time: not at all, by the mark of universal time,
or in hours and minutes. -/
inductive SaysOffset : Place → List Char → Prop where
  | unsaid : SaysOffset .unsaid []
  | mark : SaysOffset (.offset .utc) ['Z']
  | spelled (o : Offset) : SaysOffset (.offset o) (offsetText o.micros)

/-- The place that is read from a text that says its offset. -/
def Place.asRead (keepsShort : Bool) : Place → Place
  | .offset o => .offset (o.asRead keepsShort)
  | place => place

namespace DateTime

/-- A moment of which a text can tell all that matters: its offset is the same at all times, or it
is left to the zone it is used in, and then the reading is meant for the first time it comes up. -/
def IsTellable (m : DateTime) : Prop :=
  m = .naive m.wall ∨ ∃ o, m.place = .offset o

/-- The texts of a moment: its date and time with its offset, or, for a midnight that says none,
its date alone. -/
inductive IsWrittenAs : DateTime → List Char → Prop where
  | date (d : Date) : IsWrittenAs (.naive (.of d .midnight)) d.isoText
  | full {m : DateTime} {tail : List Char} (hm : m.IsTellable) (htail : SaysOffset m.place tail) :
      IsWrittenAs m (m.wall.date.isoText ++ 'T' :: (m.wall.time.isoText ++ tail))

theorem isWrittenAs_isoText {m : DateTime} (hm : m.IsTellable) : m.IsWrittenAs m.isoText := by
  rcases hm with hm | ⟨o, ho⟩
  · rw [hm]
    simpa [isoText, text, offset?, naive] using
      IsWrittenAs.full (m := .naive m.wall) (Or.inl rfl) .unsaid
  · obtain ⟨w, later, place⟩ := m
    cases ho
    simpa [isoText, text, offset?] using
      IsWrittenAs.full (m := ⟨w, later, .offset o⟩) (Or.inr ⟨o, rfl⟩) (.spelled o)

theorem IsWrittenAs.isTellable {m : DateTime} {cs : List Char} (h : m.IsWrittenAs cs) :
    m.IsTellable := by
  cases h with
  | date d => exact Or.inl rfl
  | full hm _ => exact hm

/-- The moment that is read from the texts of a moment. -/
def asRead (keepsShort : Bool) (m : DateTime) : DateTime :=
  ⟨m.wall, false, m.place.asRead keepsShort⟩

end DateTime

namespace Iso

theorem mem_fractionText {micro : Nat} {c : Char} (h : c ∈ fractionText micro) :
    isAsciiDigit c = true ∨ c = '.' := by
  unfold fractionText at h
  split at h
  · exact absurd h List.not_mem_nil
  · rcases List.mem_cons.mp h with rfl | h
    · exact Or.inr rfl
    · exact Or.inl (isAsciiDigit_of_mem_padded h)

theorem mem_timeText {t : TimeOfDay} {c : Char} (h : c ∈ t.isoText) :
    isAsciiDigit c = true ∨ c = ':' ∨ c = '.' := by
  simp only [TimeOfDay.isoText, List.mem_append, List.mem_cons] at h
  rcases h with ((h | rfl | h) | rfl | h) | h
  · exact Or.inl (isAsciiDigit_of_mem_padded h)
  · exact Or.inr (Or.inl rfl)
  · exact Or.inl (isAsciiDigit_of_mem_padded h)
  · exact Or.inr (Or.inl rfl)
  · exact Or.inl (isAsciiDigit_of_mem_padded h)
  · exact (mem_fractionText h).imp_right Or.inr

theorem isOffsetMark_eq_false {c : Char} (h : isAsciiDigit c = true ∨ c = ':' ∨ c = '.') :
    isOffsetMark c = false := by
  rcases h with h | rfl | rfl
  · have hne (d : Char) (hd : isAsciiDigit d = false) : c ≠ d := by
      rintro rfl
      rw [h] at hd
      cases hd
    simp [isOffsetMark, hne '+' (by decide), hne '-' (by decide), hne 'Z' (by decide)]
  · decide
  · decide

theorem isOffsetMark_timeText (t : TimeOfDay) : ∀ c ∈ t.isoText, (!isOffsetMark c) = true := by
  intro c hc
  rw [isOffsetMark_eq_false (mem_timeText hc)]
  rfl

/-- A time ends where its offset begins. -/
theorem readTime?_append (keepsShort : Bool) (t : TimeOfDay) {place : Place} {tail : List Char}
    (htail : SaysOffset place tail) :
    readTime? keepsShort (t.isoText ++ tail) = some (t, place.asRead keepsShort) := by
  rw [readTime?, List.takeWhile_append_of_pos (isOffsetMark_timeText t),
    List.dropWhile_append_of_pos (isOffsetMark_timeText t)]
  cases htail with
  | unsaid => simp [readClock?_isoText, t.ofClock?_parts, Place.asRead]
  | mark =>
    have hmark : isOffsetMark 'Z' = true := by decide
    have hutc : Offset.utc.asRead keepsShort = .utc := by simp [Offset.asRead]
    simp [readClock?_isoText, t.ofClock?_parts, hmark, hutc, atEnd, Place.asRead]
  | spelled o =>
    have hread := readOffset?_offsetClock keepsShort o
    rw [offsetText_eq]
    by_cases hnegative : o.micros < 0
    · have hmark : isOffsetMark '-' = true := by decide
      simp only [hnegative, decide_true] at hread
      simp [readClock?_isoText, t.ofClock?_parts, hmark, hread, hnegative, Place.asRead]
    · have hmark : isOffsetMark '+' = true := by decide
      simp only [hnegative, decide_false] at hread
      simp [readClock?_isoText, t.ofClock?_parts, hmark, hread, hnegative, Place.asRead]

/-- Reading finds the moment that was written, but for a short offset if these are not kept. -/
theorem read?_of_isWrittenAs (keepsShort : Bool) {m : DateTime} {cs : List Char}
    (h : m.IsWrittenAs cs) : read? keepsShort cs = some (m.asRead keepsShort) := by
  cases h with
  | date d =>
    have hread := readDate?_isoText d []
    rw [List.append_nil] at hread
    rw [read?, hread]
    rfl
  | full hm htail =>
    rw [read?, readDate?_isoText]
    simp only [Option.bind_eq_bind, Option.bind_some, readTime?_append _ _ htail,
      m.wall.of_date_time]
    rfl

theorem isBlank_of_mem_dateText {d : Date} {c : Char} (h : c ∈ d.isoText) :
    isBlank c = false := by
  simp only [Date.isoText, List.mem_append, List.mem_cons] at h
  rcases h with (h | rfl | h) | rfl | h
  · exact isBlank_of_isAsciiDigit (isAsciiDigit_of_mem_padded h)
  · decide
  · exact isBlank_of_isAsciiDigit (isAsciiDigit_of_mem_padded h)
  · decide
  · exact isBlank_of_isAsciiDigit (isAsciiDigit_of_mem_padded h)

theorem isBlank_of_mem_timeText {t : TimeOfDay} {c : Char} (h : c ∈ t.isoText) :
    isBlank c = false := by
  rcases mem_timeText h with h | rfl | rfl
  · exact isBlank_of_isAsciiDigit h
  · decide
  · decide

theorem isBlank_of_mem_offsetText {micros : Int} {c : Char} (h : c ∈ offsetText micros) :
    isBlank c = false := by
  have hplaces {width n : Nat} (hc : c ∈ padded width n) : isBlank c = false :=
    isBlank_of_isAsciiDigit (isAsciiDigit_of_mem_padded hc)
  rw [offsetText_eq, offsetClock] at h
  simp only [List.mem_cons, List.mem_append] at h
  rcases h with hsign | ((hhour | hcolon | hminute) | hsecond) | hmicro
  · rw [hsign]
    split <;> decide
  · exact hplaces hhour
  · rw [hcolon]
    decide
  · exact hplaces hminute
  · split at hsecond
    · exact absurd hsecond List.not_mem_nil
    · rcases List.mem_cons.mp hsecond with rfl | hc
      · decide
      · exact hplaces hc
  · rcases mem_fractionText hmicro with hc | rfl
    · exact isBlank_of_isAsciiDigit hc
    · decide

/-- There is no white space in the texts of a moment. -/
theorem isBlank_of_isWrittenAs {m : DateTime} {cs : List Char} (h : m.IsWrittenAs cs) :
    ∀ c ∈ cs, isBlank c = false := by
  intro c hc
  cases h with
  | date d => exact isBlank_of_mem_dateText hc
  | full hm htail =>
    simp only [List.mem_append, List.mem_cons] at hc
    rcases hc with hc | rfl | hc | hc
    · exact isBlank_of_mem_dateText hc
    · decide
    · exact isBlank_of_mem_timeText hc
    · generalize m.place = place at htail
      cases htail with
      | unsaid => exact absurd hc List.not_mem_nil
      | mark =>
        rw [List.mem_singleton.mp hc]
        decide
      | spelled o => exact isBlank_of_mem_offsetText hc

end Iso

end FilterPipeline
