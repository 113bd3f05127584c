import FilterPipeline.Proofs.StoredMoment
import Mathlib.Logic.ExistsUnique
import Mathlib.Tactic.ByContra

/-!
The clock of a zone over the whole time line. It runs with universal time but for the changes of
its offset, at which it jumps ahead over some readings or goes back behind some, which it then
shows again. If what one change skips or repeats comes before what the next one does, then a
reading comes up once exactly when both of its occurrences are the same instant, and a reading
that comes up divides the time line: its first occurrence has none of the later readings before
it, and its last one none of the earlier readings after it. Every instant is found again from its
reading and its occurrence, so that a moment that says its offset comes back from the zone.
-/

namespace FilterPipeline

/-- A transition together with the offset that it ends. -/
structure Change where
  instant : Int
  before : Int
  after : Int
deriving DecidableEq

namespace Change

/-- The earlier one of the two readings at a change. -/
def lower (c : Change) : Int := c.instant + min c.before c.after

def upper (c : Change) : Int := c.instant + max c.before c.after

/-- The clock jumps over a reading. -/
def Skips (c : Change) (w : Int) : Prop := c.instant + c.before ≤ w ∧ w < c.instant + c.after

end Change

namespace Zone

/-- The changes that the transitions make when an offset is in force before them. -/
def changesFrom (offset : Int) : List Transition → List Change
  | [] => []
  | t :: ts => ⟨t.instant, offset, t.offset⟩ :: changesFrom t.offset ts

def changes (z : Zone) : List Change := changesFrom z.initialOffset z.transitions

/-- What a change skips or repeats comes before what any later one does. -/
def IsSpaced (z : Zone) : Prop := z.changes.Pairwise fun c d => c.upper ≤ d.lower

/-- The clock of the zone never shows the reading. -/
def Skips (z : Zone) (w : Int) : Prop := ∃ c ∈ z.changes, c.Skips w

/-- What the clock of the zone shows at an instant, in or out of the calendar. -/
def reading (z : Zone) (u : Int) : Int := u + (z.offsetAt u).1

/-- The clock of the zone shows a reading at one instant and at no other. -/
def ShowsOnce (z : Zone) (w : Int) : Prop := ∃! u, z.reading u = w

def readingFrom (offset : Int) (ts : List Transition) (u : Int) : Int :=
  u + (offsetFrom offset none ts u).1

def universalFrom (offset : Int) (later : Bool) (ts : List Transition) (w : Int) : Int :=
  w - localOffsetFrom offset later ts w

/-- The offset in force does not depend on what is shown again. -/
theorem offsetFrom_fst (offset : Int) (repeatedUntil : Option Int) (ts : List Transition)
    (u : Int) : (offsetFrom offset repeatedUntil ts u).1 = (offsetFrom offset none ts u).1 := by
  cases ts with
  | nil => rfl
  | cons t ts =>
    unfold offsetFrom
    split <;> rfl

theorem readingFrom_cons (offset : Int) (t : Transition) (ts : List Transition) (u : Int) :
    readingFrom offset (t :: ts) u =
      if u < t.instant then u + offset else readingFrom t.offset ts u := by
  unfold readingFrom
  rw [offsetFrom]
  split
  · rfl
  · rw [offsetFrom_fst]

theorem universalFrom_cons (offset : Int) (later : Bool) (t : Transition) (ts : List Transition)
    (w : Int) :
    universalFrom offset later (t :: ts) w =
      if w < t.instant + (if later then min offset t.offset else max offset t.offset) then
        w - offset
      else universalFrom t.offset later ts w := by
  unfold universalFrom
  rw [localOffsetFrom]
  exact apply_ite (w - ·) _ _ _

variable {offset : Int} {t : Transition} {ts : List Transition} {u w a : Int} {later : Bool}

/-- A bound of the readings in force and of all changes to come is never crossed. -/
theorem le_readingFrom (hnow : a ≤ u + offset) (hlater : ∀ c ∈ changesFrom offset ts, a ≤ c.lower) :
    a ≤ readingFrom offset ts u := by
  induction ts generalizing offset with
  | nil => exact hnow
  | cons t ts ih =>
    rw [readingFrom_cons]
    split
    · exact hnow
    · have hlower : a ≤ t.instant + min offset t.offset := hlater _ List.mem_cons_self
      exact ih (by omega) fun c hc => hlater c (List.mem_cons_of_mem _ hc)

/-- A reading before all changes to come belongs to the offset in force. -/
theorem universalFrom_of_lt (h : ∀ c ∈ changesFrom offset ts, w < c.lower) :
    universalFrom offset later ts w = w - offset := by
  cases ts with
  | nil => rfl
  | cons t ts =>
    have hlower : w < t.instant + min offset t.offset := h _ List.mem_cons_self
    rw [universalFrom_cons, if_pos]
    split <;> omega

/-- A reading at which a transition counts as passed, unless it skips the reading, is not before
the one that follows the transition. -/
theorem le_of_passed (hskip : ¬ (t.instant + offset ≤ w ∧ w < t.instant + t.offset))
    (hw : ¬ w < t.instant + (if later then min offset t.offset else max offset t.offset)) :
    t.instant + t.offset ≤ w := by
  cases later <;> simp only [if_true, Bool.false_eq_true, if_false] at hw <;> omega

/-- After a change, a reading that is not skipped belongs to an instant after it. -/
theorem le_universalFrom {instant before : Int} (hw : instant + offset ≤ w)
    (hs : (⟨instant, before, offset⟩ :: changesFrom offset ts).Pairwise
      fun c d => c.upper ≤ d.lower)
    (hskip : ∀ c ∈ changesFrom offset ts, ¬ c.Skips w) :
    instant ≤ universalFrom offset later ts w := by
  induction ts generalizing instant before offset with
  | nil =>
    simp only [universalFrom, localOffsetFrom]
    omega
  | cons t ts ih =>
    obtain ⟨hnext, hs'⟩ := List.pairwise_cons.mp hs
    have horder : instant + max before offset ≤ t.instant + min offset t.offset :=
      hnext _ List.mem_cons_self
    rw [universalFrom_cons]
    by_cases hpassed : w < t.instant +
        (if later then min offset t.offset else max offset t.offset)
    · rw [if_pos hpassed]
      omega
    · rw [if_neg hpassed]
      have hpast : t.instant + t.offset ≤ w := le_of_passed (hskip _ List.mem_cons_self) hpassed
      have htail := ih hpast hs' fun c hc => hskip c (List.mem_cons_of_mem _ hc)
      omega

/-- What comes before the first occurrence of a reading is earlier on the clock too. -/
theorem readingFrom_lt (hskip : ∀ c ∈ changesFrom offset ts, ¬ c.Skips w)
    (hu : u < universalFrom offset false ts w) : readingFrom offset ts u < w := by
  induction ts generalizing offset with
  | nil =>
    simp only [universalFrom, readingFrom, localOffsetFrom, offsetFrom] at hu ⊢
    omega
  | cons t ts ih =>
    have hhead : ¬ (t.instant + offset ≤ w ∧ w < t.instant + t.offset) :=
      hskip _ List.mem_cons_self
    rw [universalFrom_cons] at hu
    rw [readingFrom_cons]
    simp only [Bool.false_eq_true, if_false] at hu
    by_cases hw : w < t.instant + max offset t.offset
    · rw [if_pos hw] at hu
      rw [if_pos (by omega)]
      omega
    · rw [if_neg hw] at hu
      split
      · omega
      · exact ih (fun c hc => hskip c (List.mem_cons_of_mem _ hc)) hu

/-- What comes after the last occurrence of a reading is later on the clock too. -/
theorem lt_readingFrom (hs : (changesFrom offset ts).Pairwise fun c d => c.upper ≤ d.lower)
    (hskip : ∀ c ∈ changesFrom offset ts, ¬ c.Skips w)
    (hu : universalFrom offset true ts w < u) : w < readingFrom offset ts u := by
  induction ts generalizing offset with
  | nil =>
    simp only [universalFrom, readingFrom, localOffsetFrom, offsetFrom] at hu ⊢
    omega
  | cons t ts ih =>
    have hhead : ¬ (t.instant + offset ≤ w ∧ w < t.instant + t.offset) :=
      hskip _ List.mem_cons_self
    obtain ⟨hnext, hs'⟩ := List.pairwise_cons.mp hs
    have hskip' : ∀ c ∈ changesFrom t.offset ts, ¬ c.Skips w := fun c hc =>
      hskip c (List.mem_cons_of_mem _ hc)
    rw [universalFrom_cons] at hu
    rw [readingFrom_cons]
    simp only [if_true] at hu
    by_cases hw : w < t.instant + min offset t.offset
    · rw [if_pos hw] at hu
      split
      · omega
      · -- From this change on, the clock stays above the earlier one of its readings.
        have hlower : t.instant + min offset t.offset ≤ readingFrom t.offset ts u := by
          refine le_readingFrom (by omega) fun c hc => ?_
          have hc' := hnext c hc
          simp only [Change.upper] at hc'
          omega
        omega
    · rw [if_neg hw] at hu
      have hpassed : t.instant ≤ universalFrom t.offset true ts w :=
        le_universalFrom (by omega) hs hskip'
      rw [if_neg (by omega)]
      exact ih hs' hskip' hu

/-- Both occurrences of a reading that is not skipped show it. -/
theorem readingFrom_universalFrom
    (hs : (changesFrom offset ts).Pairwise fun c d => c.upper ≤ d.lower)
    (hskip : ∀ c ∈ changesFrom offset ts, ¬ c.Skips w) :
    readingFrom offset ts (universalFrom offset later ts w) = w := by
  induction ts generalizing offset with
  | nil =>
    simp only [universalFrom, readingFrom, localOffsetFrom, offsetFrom]
    omega
  | cons t ts ih =>
    have hhead : ¬ (t.instant + offset ≤ w ∧ w < t.instant + t.offset) :=
      hskip _ List.mem_cons_self
    have hskip' : ∀ c ∈ changesFrom t.offset ts, ¬ c.Skips w := fun c hc =>
      hskip c (List.mem_cons_of_mem _ hc)
    rw [universalFrom_cons, readingFrom_cons]
    by_cases hw : w < t.instant + (if later then min offset t.offset else max offset t.offset)
    · have hfirst : w - offset < t.instant := by
        cases later <;> simp only [if_true, Bool.false_eq_true, if_false] at hw <;> omega
      rw [if_pos hw, if_pos hfirst]
      omega
    · have hpassed : t.instant ≤ universalFrom t.offset later ts w :=
        le_universalFrom (le_of_passed hhead hw) hs hskip'
      rw [if_neg hw, if_neg (by omega)]
      exact ih (List.pairwise_cons.mp hs).2 hskip'

/-- The clock never shows a reading that it skips. -/
theorem not_skips_readingFrom
    (hs : (changesFrom offset ts).Pairwise fun c d => c.upper ≤ d.lower) :
    ∀ c ∈ changesFrom offset ts, ¬ c.Skips (readingFrom offset ts u) := by
  induction ts generalizing offset with
  | nil => exact fun c hc => absurd hc List.not_mem_nil
  | cons t ts ih =>
    obtain ⟨hnext, hs'⟩ := List.pairwise_cons.mp hs
    rw [readingFrom_cons]
    intro c hc
    rcases List.mem_cons.mp hc with rfl | hc
    · unfold Change.Skips
      split
      · dsimp only
        omega
      · have hlower : t.instant + t.offset ≤ readingFrom t.offset ts u := by
          refine le_readingFrom (by omega) fun d hd => ?_
          have hd' := hnext d hd
          simp only [Change.upper] at hd'
          omega
        dsimp only
        omega
    · split
      · have hc' := hnext c hc
        unfold Change.Skips
        simp only [Change.upper, Change.lower] at hc'
        omega
      · exact ih hs' c hc

/-- A reading is not skipped if its two occurrences fall together. -/
theorem not_skips_of_universalFrom_eq
    (hs : (changesFrom offset ts).Pairwise fun c d => c.upper ≤ d.lower)
    (h : universalFrom offset false ts w = universalFrom offset true ts w) :
    ∀ c ∈ changesFrom offset ts, ¬ c.Skips w := by
  induction ts generalizing offset with
  | nil => exact fun c hc => absurd hc List.not_mem_nil
  | cons t ts ih =>
    obtain ⟨hnext, hs'⟩ := List.pairwise_cons.mp hs
    simp only [Change.upper, Change.lower] at hnext
    rw [universalFrom_cons, universalFrom_cons] at h
    simp only [Bool.false_eq_true, if_false, if_true] at h
    have hhead : ¬ (t.instant + offset ≤ w ∧ w < t.instant + t.offset) := by
      rintro ⟨hlow, hhigh⟩
      -- Between the sides of a change, only the later occurrence is after it.
      have hfollowing : universalFrom t.offset true ts w = w - t.offset :=
        universalFrom_of_lt fun c hc => by
          have hc' := hnext c hc
          simp only [Change.lower]
          omega
      rw [if_pos (by omega), if_neg (by omega), hfollowing] at h
      omega
    intro c hc
    rcases List.mem_cons.mp hc with rfl | hc
    · exact hhead
    · by_cases hlater : t.instant + max offset t.offset ≤ w
      · rw [if_neg (by omega), if_neg (by omega)] at h
        exact ih hs' h c hc
      · have hc' := hnext c hc
        unfold Change.Skips
        omega

/-- A reading is past both sides of a change that lies behind, unless it is the second occurrence
of what that change repeats, which is past the first side. -/
theorem le_readingFrom_of_flag {instant before : Int} (hu : instant ≤ u)
    (hs : (⟨instant, before, offset⟩ :: changesFrom offset ts).Pairwise
      fun c d => c.upper ≤ d.lower) :
    instant + (if (offsetFrom offset (some (instant + (before - offset))) ts u).2 then
      min before offset else max before offset) ≤ readingFrom offset ts u := by
  obtain ⟨hnext, -⟩ := List.pairwise_cons.mp hs
  simp only [Change.upper] at hnext
  cases ts with
  | nil =>
    simp only [readingFrom, offsetFrom, Option.any_some, decide_eq_true_iff]
    split <;> omega
  | cons t ts =>
    have hlower : instant + max before offset ≤ t.instant + min offset t.offset :=
      hnext _ List.mem_cons_self
    by_cases ht : u < t.instant
    · rw [readingFrom_cons, if_pos ht, offsetFrom, if_pos ht]
      simp only [Option.any_some, decide_eq_true_iff]
      split <;> omega
    · -- After one more change all readings are past both sides of this one, flagged or not.
      have hle : instant + max before offset ≤ readingFrom offset (t :: ts) u := by
        rw [readingFrom_cons, if_neg ht]
        exact le_readingFrom (by omega) fun c hc => hnext c (List.mem_cons_of_mem _ hc)
      split <;> omega

/-- An instant is found again from its reading and the occurrence of it, if what is shown again at
first is over before the changes to come. -/
theorem universalFrom_readingFrom {repeatedUntil : Option Int}
    (hrepeated : ∀ r ∈ repeatedUntil, ∀ c ∈ changesFrom offset ts, r + offset ≤ c.lower)
    (hs : (changesFrom offset ts).Pairwise fun c d => c.upper ≤ d.lower) :
    universalFrom offset (offsetFrom offset repeatedUntil ts u).2 ts (readingFrom offset ts u) =
      u := by
  induction ts generalizing offset repeatedUntil with
  | nil =>
    simp only [universalFrom, readingFrom, localOffsetFrom, offsetFrom]
    omega
  | cons t ts ih =>
    rw [readingFrom_cons, universalFrom_cons, offsetFrom]
    by_cases hu : u < t.instant
    · rw [if_pos hu, if_pos hu, if_pos]
      · omega
      · cases repeatedUntil with
        | none =>
          simp only [Option.any_none, Bool.false_eq_true, if_false]
          omega
        | some r =>
          have hr : r + offset ≤ t.instant + min offset t.offset :=
            hrepeated r rfl _ List.mem_cons_self
          simp only [Option.any_some, decide_eq_true_iff]
          split <;> omega
    · have hpassed := le_readingFrom_of_flag (Int.not_lt.mp hu) hs
      rw [if_neg hu, if_neg hu, if_neg (Int.not_lt.mpr hpassed)]
      obtain ⟨hnext, hs'⟩ := List.pairwise_cons.mp hs
      refine ih (fun r hr c hc => ?_) hs'
      have hc' := hnext c hc
      rw [Option.mem_some_iff] at hr
      simp only [Change.upper] at hc'
      omega

variable {z : Zone}

theorem not_skips_reading (hz : z.IsSpaced) (u : Int) : ¬ z.Skips (z.reading u) := by
  rintro ⟨c, hc, hskip⟩
  exact not_skips_readingFrom hz c hc hskip

/-- An instant is found again from its reading and its occurrence. -/
theorem universal_reading (hz : z.IsSpaced) (u : Int) :
    z.universal (z.offsetAt u).2 (z.reading u) = u := by
  refine universalFrom_readingFrom (fun r hr => ?_) hz
  cases hr

theorem reading_universal (hz : z.IsSpaced) (hw : ¬ z.Skips w) (later : Bool) :
    z.reading (z.universal later w) = w :=
  readingFrom_universalFrom hz fun c hc hskip => hw ⟨c, hc, hskip⟩

theorem universal_le (hw : ¬ z.Skips w) (hu : w ≤ z.reading u) : z.universal false w ≤ u := by
  by_contra hlt
  have hbefore := readingFrom_lt (fun c hc hskip => hw ⟨c, hc, hskip⟩) (Int.not_le.mp hlt)
  exact absurd hu (Int.not_le.mpr hbefore)

theorem le_universal (hz : z.IsSpaced) (hw : ¬ z.Skips w) (hu : z.reading u ≤ w) :
    u ≤ z.universal true w := by
  by_contra hlt
  have hafter := lt_readingFrom hz (fun c hc hskip => hw ⟨c, hc, hskip⟩) (Int.not_le.mp hlt)
  exact absurd hu (Int.not_le.mpr hafter)

/-- A reading comes up once exactly when its two occurrences are one. -/
theorem showsOnce_iff (hz : z.IsSpaced) :
    z.ShowsOnce w ↔ z.universal false w = z.universal true w := by
  constructor
  · rintro ⟨u, hu, honly⟩
    have hw : ¬ z.Skips w := hu ▸ not_skips_reading hz u
    rw [honly _ (reading_universal hz hw false), honly _ (reading_universal hz hw true)]
  · intro h
    have hw : ¬ z.Skips w := by
      rintro ⟨c, hc, hskip⟩
      exact not_skips_of_universalFrom_eq hz h c hc hskip
    refine ⟨z.universal false w, reading_universal hz hw false, fun u hu => ?_⟩
    have hlow : z.universal false w ≤ u := universal_le hw (Int.le_of_eq hu.symm)
    have hhigh : u ≤ z.universal true w := le_universal hz hw (Int.le_of_eq hu)
    omega

namespace ShowsOnce

variable (hz : z.IsSpaced) (h : z.ShowsOnce w)
include hz h

theorem not_skips : ¬ z.Skips w := by
  obtain ⟨u, hu, _⟩ := h
  exact hu ▸ not_skips_reading hz u

theorem universal_eq (later : Bool) : z.universal later w = z.universal false w := by
  cases later with
  | false => rfl
  | true => exact ((showsOnce_iff hz).mp h).symm

/-- A reading that comes up once divides the time line as it divides the readings. -/
theorem le_reading_iff (later : Bool) : w ≤ z.reading u ↔ z.universal later w ≤ u := by
  rw [h.universal_eq hz]
  constructor
  · exact universal_le (h.not_skips hz)
  · intro hu
    by_contra hlt
    have hle : u ≤ z.universal true w :=
      le_universal hz (h.not_skips hz) (Int.le_of_lt (Int.not_le.mp hlt))
    rw [h.universal_eq hz] at hle
    have heq : u = z.universal false w := by omega
    rw [heq, reading_universal hz (h.not_skips hz)] at hlt
    exact hlt (Int.le_refl w)

theorem reading_le_iff (later : Bool) : z.reading u ≤ w ↔ u ≤ z.universal later w := by
  rw [h.universal_eq hz]
  constructor
  · intro hu
    rw [← h.universal_eq hz true]
    exact le_universal hz (h.not_skips hz) hu
  · intro hu
    by_contra hlt
    have hle : z.universal false w ≤ u :=
      universal_le (h.not_skips hz) (Int.le_of_lt (Int.not_le.mp hlt))
    have heq : u = z.universal false w := by omega
    rw [heq, reading_universal hz (h.not_skips hz)] at hlt
    exact hlt (Int.le_refl w)

end ShowsOnce

end Zone

namespace Zone

variable {z : Zone}

/-- A moment that says its offset comes back from the zone as the instant that it is. -/
theorem boundOf_eq_instant (hz : z.IsSpaced) {m : DateTime} {o : Int} (ho : m.offset? = some o) :
    z.boundOf m none = m.instant := by
  unfold boundOf
  by_cases hlocal : m.IsLocalTo z
  · have hown : m.offset? = some (z.localOffset m.reading) := by
      unfold DateTime.offset? at ho ⊢
      rcases hlocal with hplace | hplace
      · rw [hplace] at ho
        cases ho
      · rw [hplace]
    rw [readingOf_of_isLocalTo hlocal, DateTime.instant_eq hown]
    rfl
  · rw [readingOf_of_not_isLocalTo hlocal]
    exact universal_reading hz m.instant

/-- Something is stored exactly if the instant and, unless the moment is a reading of the zone's
own clock, its reading in the zone are in the calendar. -/
theorem exists_stored?_iff (hz : z.IsSpaced) {m : DateTime} {o : Int} (ho : m.offset? = some o) :
    (∃ u, z.stored? m none = some u) ↔
      InCalendar m.instant ∧ (m.IsLocalTo z ∨ InCalendar (z.reading m.instant)) := by
  rw [← Option.ne_none_iff_exists', ne_eq, stored?_eq_none_iff, boundOf_eq_instant hz ho,
    LosesReading]
  by_cases hlocal : m.IsLocalTo z
  · simp [hlocal]
  · rw [readingOf_of_not_isLocalTo hlocal]
    simp only [hlocal, not_false_eq_true, true_and, false_or, not_or, Decidable.not_not, reading]
    exact ⟨fun h => h.1, fun h => ⟨h, h.1⟩⟩

end Zone

/-- The start of the millisecond that an instant or a reading lies in. -/
def wholeMillis (micros : Int) : Int := micros / 1000 * 1000

namespace Zone

/-- A zone as tables give it: its changes are spaced, and they happen at whole milliseconds, by
whole milliseconds. -/
structure IsRegular (z : Zone) : Prop where
  spaced : z.IsSpaced
  initialOffset : 1000 ∣ z.initialOffset
  transitions : ∀ t ∈ z.transitions, 1000 ∣ t.instant ∧ 1000 ∣ t.offset

theorem readingFrom_wholeMillis {offset : Int} {ts : List Transition} (hoffset : 1000 ∣ offset)
    (hts : ∀ t ∈ ts, 1000 ∣ t.instant ∧ 1000 ∣ t.offset) (u : Int) :
    readingFrom offset ts (wholeMillis u) = wholeMillis (readingFrom offset ts u) := by
  induction ts generalizing offset with
  | nil =>
    simp only [readingFrom, offsetFrom, wholeMillis]
    omega
  | cons t ts ih =>
    obtain ⟨hinstant, hnext⟩ := hts t List.mem_cons_self
    rw [readingFrom_cons, readingFrom_cons]
    by_cases hu : u < t.instant
    · rw [if_pos hu, if_pos (by unfold wholeMillis; omega)]
      unfold wholeMillis
      omega
    · rw [if_neg hu, if_neg (by unfold wholeMillis; omega)]
      exact ih hnext fun s hs => hts s (List.mem_cons_of_mem _ hs)

/-- The clock of a regular zone shows the start of a millisecond at the start of one. -/
theorem IsRegular.reading_wholeMillis {z : Zone} (hz : z.IsRegular) (u : Int) :
    z.reading (wholeMillis u) = wholeMillis (z.reading u) :=
  readingFrom_wholeMillis hz.initialOffset hz.transitions u

end Zone

end FilterPipeline
