import FilterPipeline.Moment
import FilterPipeline.Proofs.IsoText

/-!
Reading a time of day by the patterns for it what was written in the ISO format. A shape lists its
fits by preference, and for two digits of a clock the first of them takes both, so that a pattern
goes through such a text without turning back. The pattern without a fraction leaves the fraction
over where there is one, and then the next pattern reads it.
-/

namespace FilterPipeline

open Text

namespace Text

theorem digit?_of_isAsciiDigit {c : Char} (h : isAsciiDigit c = true) :
    digit? c = some (asciiDigitValue c) := by
  have hrange : 48 ≤ c.toNat ∧ c.toNat ≤ 57 := of_decide_eq_true h
  unfold digit? zeros digitFrom?
  rw [if_pos (show 0x30 ≤ c.toNat ∧ c.toNat < 0x30 + 10 by omega)]
  rfl

theorem spelledNumber_eq_asciiNumber {ds : List Char} (hds : ∀ c ∈ ds, isAsciiDigit c = true) :
    spelledNumber ds = asciiNumber ds := by
  have hvalues : ds.filterMap digit? = ds.map asciiDigitValue := by
    induction ds with
    | nil => rfl
    | cons c ds ih =>
      rw [List.forall_mem_cons] at hds
      rw [List.filterMap_cons_some (digit?_of_isAsciiDigit hds.1), ih hds.2, List.map_cons]
  rw [spelledNumber, hvalues, asciiNumber]

theorem spelledNumber_padded {width n : Nat} (h : n < 10 ^ width) :
    spelledNumber (padded width n) = n := by
  rw [spelledNumber_eq_asciiNumber fun _ => isAsciiDigit_of_mem_padded, asciiNumber_padded,
    Nat.mod_eq_of_lt h]

end Text

namespace Shape

/-- The way in which a shape fits first. -/
def Prefers (a : Shape) (cs taken rest : List Char) : Prop := (a cs).head? = some (taken, rest)

variable {a b : Shape} {shapes : List Shape} {p q : Char → Bool} {c d : Char}
  {cs taken more rest after : List Char}

theorem prefers_one (hc : p c = true) (cs : List Char) : (one p).Prefers (c :: cs) [c] cs := by
  simp [Prefers, one, hc]

theorem Prefers.followedBy (ha : a.Prefers cs taken rest) (hb : b.Prefers rest more after) :
    (a.followedBy b).Prefers cs (taken ++ more) after := by
  obtain ⟨others, hothers⟩ := List.head?_eq_some_iff.mp ha
  obtain ⟨others', hothers'⟩ := List.head?_eq_some_iff.mp hb
  simp [Prefers, Shape.followedBy, hothers, hothers']

theorem Prefers.orElse (ha : a.Prefers cs taken rest) : (a.orElse b).Prefers cs taken rest := by
  obtain ⟨others, hothers⟩ := List.head?_eq_some_iff.mp ha
  simp [Prefers, Shape.orElse, hothers]

theorem Prefers.anyOf (ha : a.Prefers cs taken rest) :
    (anyOf (a :: shapes)).Prefers cs taken rest := ha.orElse

/-- A shape that does not fit is passed over. -/
theorem Prefers.anyOf_of_nil (ha : a cs = []) (h : (Shape.anyOf shapes).Prefers cs taken rest) :
    (Shape.anyOf (a :: shapes)).Prefers cs taken rest := by
  rw [Prefers, Shape.anyOf, Shape.orElse, ha]
  exact h

theorem prefers_pair (hc : p c = true) (hd : q d = true) (rest : List Char) :
    (inTurn [p, q]).Prefers (c :: d :: rest) [c, d] rest :=
  (prefers_one hc _).followedBy ((prefers_one hd _).followedBy (b := skip) rfl)

theorem pair_eq_nil (h : (p c && q d) = false) (rest : List Char) :
    inTurn [p, q] (c :: d :: rest) = [] := by
  by_cases hc : p c = true
  · have hd : q d = false := by simpa [hc] using h
    simp [inTurn, followedBy, one, hc, hd]
  · simp [inTurn, followedBy, one, hc]

theorem prefers_upTo {ds : List Char} (hds : ∀ c ∈ ds, p c = true) (rest : List Char) :
    (upTo ds.length p).Prefers (ds ++ rest) ds rest := by
  induction ds with
  | nil => rfl
  | cons c ds ih =>
    rw [List.forall_mem_cons] at hds
    exact ((prefers_one hds.1 _).followedBy (ih hds.2)).orElse

end Shape

namespace Directive

theorem prefers_hour {n : Nat} (h : n < 24) (rest : List Char) :
    hour.shape.Prefers (padded 2 n ++ rest) (padded 2 n) rest := by
  have hdigits : ∀ k < 24, let c := digitChar (k / 10); let d := digitChar k
      (c == '2' && charRange '0' '3' d) = true ∨
      (c == '2' && charRange '0' '3' d) = false ∧
        charRange '0' '1' c = true ∧ anyDigit d = true := by
    decide +kernel
  rcases hdigits n h with hlate | ⟨hnotLate, hfirst, hsecond⟩
  · rw [Bool.and_eq_true] at hlate
    exact (Shape.prefers_pair (p := (· == '2')) hlate.1 hlate.2 rest).anyOf
  · exact .anyOf_of_nil (Shape.pair_eq_nil (p := (· == '2')) hnotLate rest)
      (Shape.prefers_pair hfirst hsecond rest).anyOf

theorem prefers_minute {n : Nat} (h : n < 60) (rest : List Char) :
    minute.shape.Prefers (padded 2 n ++ rest) (padded 2 n) rest := by
  have hdigits : ∀ k < 60, charRange '0' '5' (digitChar (k / 10)) = true ∧
      anyDigit (digitChar k) = true := by
    decide +kernel
  exact (Shape.prefers_pair (hdigits n h).1 (hdigits n h).2 rest).anyOf

/-- A leap second is tried first, and is no second of a clock. -/
theorem prefers_second {n : Nat} (h : n < 60) (rest : List Char) :
    second.shape.Prefers (padded 2 n ++ rest) (padded 2 n) rest := by
  have hdigits : ∀ k < 60, let c := digitChar (k / 10); let d := digitChar k
      (c == '6' && charRange '0' '1' d) = false ∧ charRange '0' '5' c = true ∧
        anyDigit d = true := by
    decide +kernel
  obtain ⟨hnotLeap, hfirst, hsecond⟩ := hdigits n h
  exact .anyOf_of_nil (Shape.pair_eq_nil (p := (· == '6')) hnotLeap rest)
    (Shape.prefers_pair hfirst hsecond rest).anyOf

theorem prefers_fraction (n : Nat) (rest : List Char) :
    fraction.shape.Prefers (padded 6 n ++ rest) (padded 6 n) rest := by
  have hdigit {c : Char} (hc : c ∈ padded 6 n) : charRange '0' '9' c = true := by
    have hrange := of_decide_eq_true (isAsciiDigit_of_mem_padded hc)
    simpa [charRange] using hrange
  obtain ⟨c, ds, hds⟩ := List.exists_cons_of_length_eq_add_one (length_padded 6 n)
  have hlength : ds.length = 5 := by
    have hall := length_padded 6 n
    rw [hds, List.length_cons] at hall
    omega
  rw [hds] at hdigit ⊢
  have hmore := Shape.prefers_upTo (fun d hd => hdigit (List.mem_cons_of_mem c hd)) rest
  rw [hlength] at hmore
  exact (Shape.prefers_one (hdigit List.mem_cons_self) _).followedBy hmore

end Directive

namespace Pattern

variable {items : Pattern} {d : Directive} {c : Char} {cs taken rest after : List Char}
  {captures : Captures}

theorem firstFit?_directive (hd : d.shape.Prefers cs taken rest)
    (hrest : firstFit? items rest = some (captures, after)) :
    firstFit? (.directive d :: items) cs = some ((d, taken) :: captures, after) := by
  obtain ⟨others, hothers⟩ := List.head?_eq_some_iff.mp hd
  rw [firstFit?, hothers, List.findSome?_cons]
  simp [hrest]

theorem firstFit?_literal (hc : sameLetter c c = true) (items : Pattern) (cs : List Char) :
    firstFit? (.literal c :: items) (c :: cs) = firstFit? items cs := by
  rw [firstFit?, if_pos hc]

/-- Hours, minutes and seconds, with colons between them. -/
def clock : Pattern := [.directive .hour, .literal ':', .directive .minute, .literal ':',
  .directive .second]

/-- A point and a fraction of a second. -/
def pointFraction : Pattern := [.literal '.', .directive .fraction]

theorem timesOfDay_eq : timesOfDay = [clock, clock ++ pointFraction,
    [.directive .hour, .literal ':', .directive .minute]] := rfl

/-- The parts of a clock are taken as they are written, and what comes after them is left to what
follows in the pattern. -/
theorem firstFit?_clock {hour minute second : Nat} (hhour : hour < 24) (hminute : minute < 60)
    (hsecond : second < 60) (hrest : firstFit? items rest = some (captures, after)) :
    firstFit? (clock ++ items)
      (padded 2 hour ++ ':' :: (padded 2 minute ++ ':' :: (padded 2 second ++ rest))) =
      some ((.hour, padded 2 hour) :: (.minute, padded 2 minute) ::
        (.second, padded 2 second) :: captures, after) := by
  have hcolon : sameLetter ':' ':' = true := by decide
  have hseconds := firstFit?_directive (Directive.prefers_second hsecond rest) hrest
  have hminutes := firstFit?_directive
    (Directive.prefers_minute hminute (':' :: (padded 2 second ++ rest)))
    ((firstFit?_literal hcolon _ _).trans hseconds)
  exact firstFit?_directive (Directive.prefers_hour hhour _)
    ((firstFit?_literal hcolon _ _).trans hminutes)

theorem firstFit?_pointFraction (n : Nat) :
    firstFit? pointFraction ('.' :: padded 6 n) = some ([(.fraction, padded 6 n)], []) := by
  have hpoint : sameLetter '.' '.' = true := by decide
  have hfraction := Directive.prefers_fraction n []
  rw [List.append_nil] at hfraction
  exact (firstFit?_literal hpoint _ _).trans (firstFit?_directive hfraction rfl)

end Pattern

namespace MomentParts

/-- The parts of a moment of which the clock alone is said. -/
def ofClock (hour minute second micro : Nat) : MomentParts :=
  { unsaid with hour := hour, minute := minute, second := second, micro := micro }

theorem ofCaptures?_clock {hour minute second : Nat} (hhour : hour < 24) (hminute : minute < 60)
    (hsecond : second < 60) :
    ofCaptures? [(.hour, padded 2 hour), (.minute, padded 2 minute),
      (.second, padded 2 second)] = some (ofClock hour minute second 0) := by
  have htwo {n : Nat} (h : n < 60) : spelledNumber (padded 2 n) = n :=
    spelledNumber_padded (by omega)
  simp [ofCaptures?, say?, htwo hminute, htwo hsecond, htwo (Nat.lt_trans hhour (by decide)),
    ofClock, unsaid]

theorem ofCaptures?_fraction {hour minute second micro : Nat} (hhour : hour < 24)
    (hminute : minute < 60) (hsecond : second < 60) (hmicro : micro < 10 ^ 6) :
    ofCaptures? [(.hour, padded 2 hour), (.minute, padded 2 minute),
      (.second, padded 2 second), (.fraction, padded 6 micro)] =
      some (ofClock hour minute second micro) := by
  have htwo {n : Nat} (h : n < 60) : spelledNumber (padded 2 n) = n :=
    spelledNumber_padded (by omega)
  have hfraction : microsOfFraction (padded 6 micro) = micro := by
    rw [microsOfFraction, spelledNumber_padded hmicro, length_padded]
    exact Nat.mul_one micro
  simp [ofCaptures?, say?, htwo hminute, htwo hsecond, htwo (Nat.lt_trans hhour (by decide)),
    hfraction, ofClock, unsaid]

/-- A clock alone makes a time on the first day of 1900. -/
theorem dateTime?_ofClock {hour minute second micro : Nat} {t : TimeOfDay}
    (h : TimeOfDay.ofClock? hour minute second micro = some t) :
    ∃ d, (ofClock hour minute second micro).dateTime? = some (.naive (.of d t)) := by
  obtain ⟨d, hd⟩ : ∃ d, unsaid.date? = some d := Option.isSome_iff_exists.mp (by decide)
  refine ⟨d, ?_⟩
  have hd : (ofClock hour minute second micro).date? = some d := hd
  have hconsistent : (ofClock hour minute second micro).isConsistent = true := rfl
  rw [dateTime?, hconsistent, hd]
  change (TimeOfDay.ofClock? hour minute second micro).bind _ = _
  rw [h]
  rfl

end MomentParts

theorem LocalTime.time_of (d : Date) (t : TimeOfDay) : (of d t).time = t := by
  have ht := t.inRange
  have hmod : (d.dayNumber * microsPerDay + t.micros) % microsPerDay = t.micros := by
    rw [Nat.mul_add_mod', Nat.mod_eq_of_lt ht]
  cases t
  simpa [of, time] using hmod

namespace Pattern

variable {p : Pattern} {cs : List Char} {captures : Captures} {t : TimeOfDay}

theorem exists_read? {hour minute second micro : Nat} (hfit : firstFit? p cs = some (captures, []))
    (hparts : MomentParts.ofCaptures? captures =
      some (MomentParts.ofClock hour minute second micro))
    (ht : TimeOfDay.ofClock? hour minute second micro = some t) :
    ∃ m, p.read? cs = some m ∧ m.wall.time = t := by
  obtain ⟨d, hd⟩ := MomentParts.dateTime?_ofClock ht
  refine ⟨.naive (.of d t), ?_, LocalTime.time_of d t⟩
  simp [read?, fit?, hfit, hparts, hd]

theorem read?_of_rest {c : Char} {rest : List Char}
    (hfit : firstFit? p cs = some (captures, c :: rest)) : p.read? cs = none := by
  simp [read?, fit?, hfit]

end Pattern

namespace TimeOfDay

variable (t : TimeOfDay)

theorem parts_lt : t.hour < 24 ∧ t.minute < 60 ∧ t.second < 60 ∧ t.micro < 10 ^ 6 := by
  have ht := t.inRange
  simp only [microsPerDay] at ht
  simp only [hour, minute, second, micro, microsPerSecond]
  omega

theorem isoText_eq : t.isoText = padded 2 t.hour ++ ':' :: (padded 2 t.minute ++
    ':' :: (padded 2 t.second ++ fractionText t.micro)) := by
  simp [isoText]

/-- The first pattern that fits the text of a time finds the time. -/
theorem findSome?_timesOfDay :
    Pattern.timesOfDay.findSome? (fun p => (p.read? t.isoText).map fun m => m.wall.time) =
      some t := by
  obtain ⟨hhour, hminute, hsecond, hmicro⟩ := t.parts_lt
  have hclock (items : Pattern) {rest after : List Char} {captures : Pattern.Captures}
      (hrest : Pattern.firstFit? items rest = some (captures, after)) :=
    Pattern.firstFit?_clock hhour hminute hsecond hrest
  rw [Pattern.timesOfDay_eq, isoText_eq]
  -- The first pattern reads a time without a fraction, and of any other leaves the fraction over.
  by_cases hzero : t.micro = 0
  · have hfraction : fractionText t.micro = [] := if_pos hzero
    have hfit := hclock [] (show Pattern.firstFit? [] [] = some ([], []) from rfl)
    have htime := t.ofClock?_parts
    rw [hzero] at htime
    obtain ⟨m, hm, ht⟩ := Pattern.exists_read? hfit
      (MomentParts.ofCaptures?_clock hhour hminute hsecond) htime
    rw [List.append_nil] at hm
    rw [hfraction, List.findSome?_cons, hm]
    exact congrArg some ht
  · have hfraction : fractionText t.micro = '.' :: padded 6 t.micro := if_neg hzero
    have hfit := hclock [] (show Pattern.firstFit? [] ('.' :: padded 6 t.micro) =
      some ([], '.' :: padded 6 t.micro) from rfl)
    have hfit' := hclock _ (Pattern.firstFit?_pointFraction t.micro)
    obtain ⟨m, hm, ht⟩ := Pattern.exists_read? hfit'
      (MomentParts.ofCaptures?_fraction hhour hminute hsecond hmicro) t.ofClock?_parts
    have hnone := Pattern.read?_of_rest hfit
    rw [List.append_nil] at hnone
    rw [hfraction, List.findSome?_cons, hnone, Option.map_none, List.findSome?_cons, hm]
    exact congrArg some ht

end TimeOfDay

/-- A time of day is read from its text, also with white space around it. -/
theorem Value.toTime?_isoText (t : TimeOfDay) {front back : List Char}
    (hfront : ∀ c ∈ front, isBlank c = true) (hback : ∀ c ∈ back, isBlank c = true) :
    (Value.text (String.ofList (front ++ t.isoText ++ back))).toTime? = some t := by
  rw [toTime?, String.toList_ofList,
    strip_padded hfront (fun _ => Iso.isBlank_of_mem_timeText) hback]
  exact t.findSome?_timesOfDay

end FilterPipeline
