import FilterPipeline.Proofs.DateForms
import FilterPipeline.Proofs.PublishedZones

/-!
Moments that say their offset. Such a moment is turned into the wall clock of a zone and back into
universal time, and comes out as the instant that it was, also where the clock of the zone shows a
reading twice or skips some: the occurrence of a reading is kept on the way. So all zones in which
the reading exists give one result. What a text says as its offset is what is honoured, but for an
offset of less than a second where the reader of dates keeps none of these.
-/

namespace FilterPipeline

open Text

theorem Offset.micros_of_ofMicros? {n : Int} {o : Offset} (h : ofMicros? n = some o) :
    o.micros = n := by
  unfold ofMicros? at h
  split at h
  · rw [← Option.some.inj h]
  · cases h

namespace Iso

/-- What a clock text after a sign says as an offset, in microseconds. -/
def ClockReading.offsetMicros (r : ClockReading) (negative : Bool) : Int :=
  let micros : Int := ((r.hour * 60 + r.minute) * 60 + r.second : Nat) * microsPerSecond + r.micro
  if negative then -micros else micros

/-- The offset that is said after a time: that of universal time by its mark, or another one
after its sign. -/
def offsetAfterTime? (cs : List Char) : Option Int :=
  match cs.dropWhile (!isOffsetMark ·) with
  | [] => none
  | 'Z' :: _ => some 0
  | sign :: rest => (readClock? rest).map fun r => r.offsetMicros (sign = '-')

/-- The offset that is said in the text of a moment; after a date alone none is. -/
def saidOffset? (cs : List Char) : Option Int :=
  (readDate? cs).bind fun (_, rest) => offsetAfterTime? rest.tail

/-- What is kept of an offset in a text: nothing if it is less than a second, unless short offsets
are kept. -/
def keptOffset (keepsShort : Bool) (micros : Int) : Int :=
  if keepsShort ∨ microsPerSecond ≤ micros.natAbs then micros else 0

/-- However many digits a fraction has, it is less than a second. -/
theorem micro_lt_of_readFraction? {cs : List Char} {micro : Nat} {complete : Bool}
    (h : readFraction? cs = some (micro, complete)) : micro < microsPerSecond := by
  rw [readFraction?] at h
  split at h
  · rename_i hdigits
    obtain ⟨rfl, -⟩ := Prod.mk.inj (Option.some.inj h)
    have hlength : (cs.take 6).length ≤ 6 := List.length_take_le 6 cs
    calc asciiNumber (cs.take 6) * 10 ^ (6 - (cs.take 6).length)
        < 10 ^ (cs.take 6).length * 10 ^ (6 - (cs.take 6).length) :=
          Nat.mul_lt_mul_of_pos_right (asciiNumber_lt (List.all_eq_true.mp hdigits))
            (Nat.pow_pos (by decide))
      _ = 10 ^ 6 := by rw [← Nat.pow_add, Nat.add_sub_cancel' hlength]
  · cases h

theorem micro_lt_of_readClock? {cs : List Char} {r : ClockReading} (h : readClock? cs = some r) :
    r.micro < microsPerSecond := by
  unfold readClock? at h
  simp only [Option.bind_eq_bind] at h
  obtain ⟨⟨hour, afterHour⟩, -, h⟩ := Option.bind_eq_some_iff.mp h
  obtain ⟨hourEnd, -, h⟩ := Option.bind_eq_some_iff.mp h
  cases hourEnd with
  | done complete =>
    cases h
    exact Nat.zero_lt_succ _
  | fraction cs =>
    obtain ⟨⟨micro, complete⟩, hfraction, h⟩ := Option.bind_eq_some_iff.mp h
    cases h
    exact micro_lt_of_readFraction? hfraction
  | field cs =>
    obtain ⟨⟨minute, afterMinute⟩, -, h⟩ := Option.bind_eq_some_iff.mp h
    obtain ⟨minuteEnd, -, h⟩ := Option.bind_eq_some_iff.mp h
    cases minuteEnd with
    | done complete =>
      cases h
      exact Nat.zero_lt_succ _
    | fraction cs =>
      obtain ⟨⟨micro, complete⟩, hfraction, h⟩ := Option.bind_eq_some_iff.mp h
      cases h
      exact micro_lt_of_readFraction? hfraction
    | field cs =>
      obtain ⟨⟨second, afterSecond⟩, -, h⟩ := Option.bind_eq_some_iff.mp h
      obtain ⟨secondEnd, -, h⟩ := Option.bind_eq_some_iff.mp h
      cases secondEnd with
      | done complete =>
        cases h
        exact Nat.zero_lt_succ _
      | _ =>
        obtain ⟨⟨micro, complete⟩, hfraction, h⟩ := Option.bind_eq_some_iff.mp h
        cases h
        exact micro_lt_of_readFraction? hfraction

theorem second_le_offsetMicros_iff {r : ClockReading} (hmicro : r.micro < microsPerSecond)
    (negative : Bool) : microsPerSecond ≤ (r.offsetMicros negative).natAbs ↔
      (r.hour * 60 + r.minute) * 60 + r.second ≠ 0 := by
  simp only [ClockReading.offsetMicros, microsPerSecond] at hmicro ⊢
  split <;> omega

theorem micros_of_readOffset? {keepsShort negative : Bool} {cs : List Char} {o : Offset}
    (h : readOffset? keepsShort negative cs = some o) :
    ∃ r, readClock? cs = some r ∧ o.micros = keptOffset keepsShort (r.offsetMicros negative) := by
  obtain ⟨r, hr, ho⟩ := Option.bind_eq_some_iff.mp h
  refine ⟨r, hr, ?_⟩
  have hsecond := second_le_offsetMicros_iff (micro_lt_of_readClock? hr) negative
  rw [keptOffset]
  split at ho
  · cases ho
  · dsimp only at ho
    split at ho
    · rename_i hzero
      cases ho
      rw [if_neg]
      · rfl
      · rintro (hkeeps | hle)
        · simp [hkeeps] at hzero
        · exact hsecond.mp hle hzero.1
    · rename_i hne
      rw [if_pos]
      · exact Offset.micros_of_ofMicros? ho
      · by_contra hnot
        rw [not_or, hsecond, not_not] at hnot
        exact hne ⟨hnot.2, by simpa using hnot.1⟩

/-- The place that is read after a time has an offset exactly if one is said there. -/
theorem offset?_of_readTime? {keepsShort : Bool} {cs : List Char} {t : TimeOfDay} {place : Place}
    (h : readTime? keepsShort cs = some (t, place)) (wall : LocalTime) :
    (DateTime.mk wall false place).offset? = (offsetAfterTime? cs).map (keptOffset keepsShort) := by
  obtain ⟨r, -, h⟩ := Option.bind_eq_some_iff.mp h
  obtain ⟨time, -, h⟩ := Option.bind_eq_some_iff.mp h
  rw [offsetAfterTime?]
  -- Reader and reading take the same cases on what comes after the time.
  generalize cs.dropWhile (!isOffsetMark ·) = tail at h ⊢
  split at h
  · split at h
    · cases h
      rfl
    · cases h
  · split at h
    · cases h
      simp [DateTime.offset?, Offset.utc, keptOffset]
    · cases h
  · rename_i sign rest hZ
    obtain ⟨o, ho, heq⟩ := Option.map_eq_some_iff.mp h
    cases heq
    obtain ⟨r, hr, hmicros⟩ := micros_of_readOffset? ho
    simp [DateTime.offset?, hr, hmicros]

/-- A moment that is read from a text has an offset exactly if one is said there, and it is the one
that is said, unless that is a short one and these are not kept. -/
theorem offset?_of_read? {keepsShort : Bool} {cs : List Char} {m : DateTime}
    (h : read? keepsShort cs = some m) :
    m.offset? = (saidOffset? cs).map (keptOffset keepsShort) := by
  obtain ⟨⟨date, rest⟩, hdate, h⟩ := Option.bind_eq_some_iff.mp h
  rw [saidOffset?, hdate, Option.bind_some]
  cases rest with
  | nil =>
    cases h
    rfl
  | cons between rest =>
    obtain ⟨⟨time, place⟩, htime, h⟩ := Option.bind_eq_some_iff.mp h
    cases h
    exact offset?_of_readTime? htime _

/-- A text of a moment says the offset of the moment. -/
theorem offsetAfterTime?_append (w : LocalTime) (later : Bool) (t : TimeOfDay) {place : Place}
    {tail : List Char} (htail : SaysOffset place tail) :
    offsetAfterTime? (t.isoText ++ tail) = (DateTime.mk w later place).offset? := by
  rw [offsetAfterTime?, List.dropWhile_append_of_pos (isOffsetMark_timeText t)]
  cases htail with
  | unsaid => rfl
  | mark => rfl
  | spelled o =>
    obtain ⟨r, hclock, -, hseconds, hmicro⟩ := readClock?_offsetClock o.inRange
    have hsize (negative : Bool) (h : negative = true ↔ o.micros < 0) :
        r.offsetMicros negative = o.micros := by
      simp only [microsPerSecond] at hseconds hmicro
      simp only [ClockReading.offsetMicros, hseconds, hmicro, microsPerSecond, h]
      split <;> omega
    rw [offsetText_eq]
    by_cases hnegative : o.micros < 0
    · rw [if_pos hnegative, List.dropWhile_cons_of_neg (by decide)]
      simp [DateTime.offset?, hclock, hsize true (by simpa using hnegative)]
    · rw [if_neg hnegative, List.dropWhile_cons_of_neg (by decide)]
      simp [DateTime.offset?, hclock, hsize false (by simpa using hnegative)]

theorem saidOffset?_of_isWrittenAs {m : DateTime} {cs : List Char} (h : m.IsWrittenAs cs) :
    saidOffset? cs = m.offset? := by
  cases h with
  | date d =>
    have hread := readDate?_isoText d []
    rw [List.append_nil] at hread
    rw [saidOffset?, hread]
    rfl
  | full _ htail =>
    rw [saidOffset?, readDate?_isoText]
    exact offsetAfterTime?_append m.wall m.later _ htail

end Iso

namespace Value

/-- The offset of the moment that a value is, or the one that a text says. -/
def saidOffset? : Value → Option Int
  | .dateTime m => m.offset?
  | .text s => Iso.saidOffset? (strip s.toList)
  | _ => none

theorem Represents.saidOffset?_eq {v : Value} {m : DateTime} (h : v.Represents m) :
    v.saidOffset? = m.offset? := by
  cases h with
  | moment => rfl
  | date d => rfl
  | text hcs hfront hback =>
    rw [saidOffset?, String.toList_ofList,
      strip_padded hfront (Iso.isBlank_of_isWrittenAs hcs) hback,
      Iso.saidOffset?_of_isWrittenAs hcs]

theorem offset?_of_saidOffset? [Host] {v : Value} {m : DateTime} {said : Int}
    (hm : v.moment? = some m) (hsaid : v.saidOffset? = some said) :
    m.offset? = some (if v.isText then Iso.keptOffset Host.keepsShortOffsets said else said) := by
  cases v with
  | dateTime n =>
    cases hm
    exact hsaid
  | text s =>
    have hread := Iso.offset?_of_read? hm
    rwa [show Iso.saidOffset? (strip s.toList) = some said from hsaid] at hread
  | _ => cases hsaid

end Value

namespace Rule

section

variable [Host] {f : Filters} {given : Value} {name : String} {m : DateTime}

/-- Whatever the zone, what is emitted for a moment that says its offset is its own instant. It is
emitted exactly if the instant is in the calendar and its reading in the zone is, too, unless the
moment is a reading of that zone's clock already. -/
theorem translate_moment_eq_ok_iff {z : Zone} (hz : z.IsSpaced) {o : Int}
    (hm : (inputOr f given name).moment? = some m) (ho : m.offset? = some o) (t : Translation) :
    (moment (.text name) given .null).translate (.ok z) f = .ok t ↔
      (m.IsLocalTo z ∨ InCalendar (z.reading (m.wall.micros - o))) ∧
      ∃ u : LocalTime, (u.micros : Int) = m.wall.micros - o ∧
        t = ⟨[.equality name (.dateTime (.utc u))],
          (keyUnless given (.text name)).filter f.contains⟩ := by
  have hstored (u : LocalTime) (hu : z.stored? m none = some u) :
      (u.micros : Int) = m.wall.micros - o := by
    rw [Zone.micros_of_stored? hu, Zone.boundOf_eq_instant hz ho, DateTime.instant_eq ho]
  rw [translate_moment_of_moment? _ hm, ← DateTime.instant_eq ho]
  change equalityTranslation name _ (z.stored? m none) = .ok t ↔ _
  constructor
  · intro h
    cases hu : z.stored? m none with
    | none =>
      rw [hu] at h
      cases h
    | some u =>
      rw [hu] at h
      cases h
      refine ⟨((Zone.exists_stored?_iff hz ho).mp ⟨u, hu⟩).2, u, ?_, rfl⟩
      rw [DateTime.instant_eq ho]
      exact hstored u hu
  · rintro ⟨hreading, u, hu, rfl⟩
    have hinstant : InCalendar m.instant := by
      rw [← hu]
      exact u.inCalendar
    obtain ⟨s, hs⟩ := (Zone.exists_stored?_iff hz ho).mpr ⟨hinstant, hreading⟩
    have heq : s = u := LocalTime.eq_of_micros (by
      have hmicros := hstored s hs
      rw [DateTime.instant_eq ho] at hu
      omega)
    rw [hs, heq]
    rfl

/-- A moment that says its offset is emitted as its own instant, in whatever zone. The zone matters
only at the ends of the calendar, which the reading in the zone must not leave. The instant is the
one that is said, unless a text says an offset of less than a second and the reader of dates keeps
none of these. -/
theorem offset_over_zone {said : Int} (hm : (inputOr f given name).moment? = some m)
    (hsaid : (inputOr f given name).saidOffset? = some said) :
    ∃ o, m.offset? = some o ∧
      (∀ z : Zone, z.IsSpaced → ∀ t,
        (moment (.text name) given .null).translate (.ok z) f = .ok t ↔
          (m.IsLocalTo z ∨ InCalendar (z.reading (m.wall.micros - o))) ∧
          ∃ u : LocalTime, (u.micros : Int) = m.wall.micros - o ∧
            t = ⟨[.equality name (.dateTime (.utc u))],
              (keyUnless given (.text name)).filter f.contains⟩) ∧
      (∀ (y z : Zone) (s t : Translation), y.IsSpaced → z.IsSpaced →
        (moment (.text name) given .null).translate (.ok y) f = .ok s →
        (moment (.text name) given .null).translate (.ok z) f = .ok t → s = t) ∧
      ((m.wall.micros : Int) - o = m.wall.micros - said ↔ Host.keepsShortOffsets = true ∨
        (inputOr f given name).isText = false ∨ said = 0 ∨ microsPerSecond ≤ said.natAbs) ∧
      ∀ n : DateTime, (inputOr f given name).Represents n →
        m.wall = n.wall ∧ n.offset? = some said := by
  have ho := Value.offset?_of_saidOffset? hm hsaid
  refine ⟨_, ho, fun z hz t => translate_moment_eq_ok_iff hz hm ho t, ?_, ?_, fun n hn => ?_⟩
  · intro y z s t hy hz hs ht
    obtain ⟨-, u, hu, rfl⟩ := (translate_moment_eq_ok_iff hy hm ho s).mp hs
    obtain ⟨-, v, hv, rfl⟩ := (translate_moment_eq_ok_iff hz hm ho t).mp ht
    have heq : u = v := LocalTime.eq_of_micros (by omega)
    rw [heq]
  · rw [Iso.keptOffset]
    cases (inputOr f given name).isText with
    | false => simp
    | true =>
      simp only [if_true, Bool.true_eq_false, false_or]
      cases Host.keepsShortOffsets with
      | true => simp
      | false =>
        simp only [Bool.false_eq_true, false_or]
        split <;> omega
  · rw [hn.moment?_eq] at hm
    rw [← hn.saidOffset?_eq, hsaid, ← Option.some.inj hm]
    constructor
    · split <;> rfl
    · rfl

end

/-- Something is due in the second of the two hours from two to three of a night in Berlin. -/
def dueTwice : Filters := .ofList [("due", .text "2024-10-27T02:30:00+01:00")]

/-- The hour is told by its offset in Berlin, too. -/
theorem offset_over_zone_ambiguous :
    ∃ t, (moment (.text "due") .null .null).translate (.ok .berlin) dueTwice = .ok t ∧
      (moment (.text "due") .null .null).translate (.ok .utc) dueTwice = .ok t ∧
      t.stages = [.equality "due" (.dateTime (.utc ⟨63865589400000000, by decide⟩))] := by
  have hm : (inputOr dueTwice .null "due").moment? =
      some ⟨⟨63865593000000000, by decide⟩, false, .offset ⟨3600000000, by decide⟩⟩ := by
    decide +kernel
  have hsaid : (inputOr dueTwice .null "due").saidOffset? = some 3600000000 := by decide +kernel
  obtain ⟨o, ho, hzones, -⟩ := offset_over_zone hm hsaid
  cases ho
  have hberlin : Zone.berlin.IsSpaced :=
    (Zone.isRegular_regions _ (by simp [Zone.regions])).spaced
  have hreading : InCalendar (Zone.berlin.reading (63865593000000000 - 3600000000)) := by
    decide +kernel
  refine ⟨_, (hzones .berlin hberlin _).mpr
      ⟨Or.inr hreading, ⟨63865589400000000, by decide⟩, rfl, rfl⟩,
    (hzones .utc Zone.isRegular_utc.spaced _).mpr
      ⟨Or.inr (by decide +kernel), ⟨63865589400000000, by decide⟩, rfl, rfl⟩, rfl⟩

/-- Something is due at a noon that is a quarter of a second behind universal time. -/
def dueBehind : Filters := .ofList [("due", .text "2024-06-01T12:00:00-00:00:00.250000")]

/-- What is emitted is not always the instant that was said. -/
theorem not_forall_own_instant :
    ¬ ∀ (f : Filters) (name : String) (m : DateTime) (said : Int) (z : Zone) (t : Translation),
      (f.value name).moment? = some m → (f.value name).saidOffset? = some said → z.IsSpaced →
      (moment (.text name) .null .null).translate (.ok z) f = .ok t →
      ∃ u : LocalTime, (u.micros : Int) = m.wall.micros - said ∧
        t.stages = [.equality name (.dateTime (.utc u))] := by
  intro h
  have hm : (inputOr dueBehind .null "due").moment? =
      some ⟨⟨63852840000000000, by decide⟩, false, .offset .utc⟩ := by decide +kernel
  have hsaid : (inputOr dueBehind .null "due").saidOffset? = some (-250000) := by decide +kernel
  have hspaced := Zone.isRegular_utc.spaced
  have hreading : InCalendar (Zone.utc.reading (63852840000000000 - 0)) := by decide
  have hemitted := (translate_moment_eq_ok_iff hspaced hm rfl _).mpr
    ⟨Or.inr hreading, ⟨63852840000000000, by decide⟩, rfl, rfl⟩
  obtain ⟨u, hu, hstages⟩ := h dueBehind "due" _ _ _ _ hm hsaid hspaced hemitted
  cases hstages
  exact absurd hu (by decide)

end Rule

end FilterPipeline
