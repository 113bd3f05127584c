import FilterPipeline.Moment

/-!
No zone is ever a whole day away from universal time. Offsets are looked up among those that
a zone has had or will have, so that the bound is a property of these.
-/

namespace FilterPipeline

/-- Less than a day, either way. -/
def IsWithinDay (micros : Int) : Prop := micros.natAbs < microsPerDay

instance (micros : Int) : Decidable (IsWithinDay micros) :=
  inferInstanceAs (Decidable (micros.natAbs < microsPerDay))

namespace Zone

/-- The offsets that a zone ever has. -/
def offsets (z : Zone) : List Int := z.initialOffset :: z.transitions.map Transition.offset

def IsBounded (z : Zone) : Prop := ∀ o ∈ z.offsets, IsWithinDay o

theorem isBounded_utc : utc.IsBounded := by
  change ∀ o ∈ utc.offsets, IsWithinDay o
  decide

theorem offsetFrom_mem (offset : Int) (repeatedUntil : Option Int) (ts : List Transition)
    (u : Int) : (offsetFrom offset repeatedUntil ts u).1 ∈ offset :: ts.map Transition.offset := by
  induction ts generalizing offset repeatedUntil with
  | nil => exact List.mem_cons_self
  | cons t ts ih =>
    unfold offsetFrom
    by_cases hu : u < t.instant
    · rw [if_pos hu]
      exact List.mem_cons_self
    · rw [if_neg hu]
      exact List.mem_cons_of_mem _ (ih t.offset _)

theorem localOffsetFrom_mem (offset : Int) (later : Bool) (ts : List Transition) (w : Int) :
    localOffsetFrom offset later ts w ∈ offset :: ts.map Transition.offset := by
  induction ts generalizing offset with
  | nil => exact List.mem_cons_self
  | cons t ts ih =>
    unfold localOffsetFrom
    by_cases hw : w < t.instant + (if later then min offset t.offset else max offset t.offset)
    · rw [if_pos hw]
      exact List.mem_cons_self
    · rw [if_neg hw]
      exact List.mem_cons_of_mem _ (ih t.offset)

theorem IsBounded.offsetAt {z : Zone} (hz : z.IsBounded) (u : Int) :
    IsWithinDay (z.offsetAt u).1 := hz _ (offsetFrom_mem ..)

theorem IsBounded.localOffsetFrom {z : Zone} (hz : z.IsBounded) (later : Bool) (w : Int) :
    IsWithinDay (localOffsetFrom z.initialOffset later z.transitions w) :=
  hz _ (localOffsetFrom_mem ..)

/-- What a name resolves to is universal time or a zone of the host. -/
theorem resolve_eq_ok_iff [Host] {name : String} {z : Zone} :
    resolve name = .ok z ↔
      isUtcName name = true ∧ z = utc ∨ isUtcName name = false ∧ Host.zone name = .ok z := by
  unfold resolve
  by_cases hutc : isUtcName name = true
  · simp [hutc, eq_comm]
  · rw [if_neg hutc]
    cases h : Host.zone name with
    | ok y => simp [hutc]
    | error e => cases e <;> simp [hutc]

end Zone

namespace Host

/-- Clocks are less than a day away from universal time in all zones that can be looked up. -/
def BoundsOffsets [Host] : Prop := ∀ name z, zone name = .ok z → z.IsBounded

theorem BoundsOffsets.isBounded [Host] (h : BoundsOffsets) {name : String} {z : Zone}
    (hname : Zone.resolve name = .ok z) : z.IsBounded := by
  rcases Zone.resolve_eq_ok_iff.mp hname with ⟨_, rfl⟩ | ⟨_, hzone⟩
  · exact Zone.isBounded_utc
  · exact h name z hzone

end Host

end FilterPipeline
