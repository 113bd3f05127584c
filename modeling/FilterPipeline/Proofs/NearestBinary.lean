import FilterPipeline.Decimal.Binary64
import Mathlib.Algebra.Group.Nat.Even
import Mathlib.Algebra.Order.Field.Basic
import Mathlib.Algebra.Order.Field.Power
import Mathlib.Algebra.Order.Field.Rat
import Mathlib.Tactic.FieldSimp
import Mathlib.Tactic.Linarith
import Mathlib.Tactic.Ring

/-!
Rounding to binary numbers. The magnitudes are numbered upwards, and the numbering is continued
past the finite ones as if exponents had no bound. A number is rounded to the magnitude that no
other one is nearer to, and halfway between two of them to the one with the even number; there is
exactly one such magnitude. Quotients, integers and decimal numbers are rounded in this way, and
the result is missing exactly when the nearest magnitude reaches `2 ^ 1024`.
-/

namespace FilterPipeline

namespace Binary64

theorem binadeSize_pos : 0 < binadeSize := by decide

theorem even_binadeSize : Even binadeSize := ⟨binadeSize / 2, by decide⟩

/-- A magnitude is a number of steps of its binade, of which the first binade and each later one
have half as many below their start. -/
theorem units_binade {binade steps : Nat} (hfull : binade = 0 ∨ binadeSize ≤ steps)
    (hsteps : steps ≤ 2 * binadeSize) :
    units (binade * binadeSize + steps) = steps * 2 ^ binade := by
  have hpos := binadeSize_pos
  unfold units
  generalize binadeSize = size at *
  simp only [Nat.pow_eq]
  rcases Nat.lt_or_ge steps size with hlow | hge
  · have hbinade : binade = 0 := by omega
    simp [hbinade, hlow]
  · rw [if_neg (by omega)]
    rcases Nat.lt_or_eq_of_le hsteps with hlt | heq
    · have hnumber : binade * size + steps = (steps - size) + (binade + 1) * size := by
        rw [Nat.succ_mul]
        omega
      have hmod : (binade * size + steps) % size = steps - size := by
        rw [hnumber, Nat.add_mul_mod_self_right, Nat.mod_eq_of_lt (by omega)]
      have hdiv : (binade * size + steps) / size - 1 = binade := by
        rw [hnumber, Nat.add_mul_div_right _ _ hpos, Nat.div_eq_of_lt (by omega)]
        omega
      rw [hmod, hdiv, Nat.add_sub_cancel' hge]
    · have hnumber : binade * size + steps = (binade + 2) * size := by
        rw [Nat.add_mul]
        omega
      have hdiv : (binade + 2) * size / size - 1 = binade + 1 := by
        rw [Nat.mul_div_cancel _ hpos]
        omega
      rw [hnumber, Nat.mul_mod_left, hdiv, heq, pow_succ]
      ring

/-- Every magnitude is of that form, one step below the next magnitude. -/
theorem exists_binade (magnitude : Nat) :
    ∃ binade steps, (binade = 0 ∨ binadeSize ≤ steps) ∧ steps < 2 * binadeSize ∧
      magnitude = binade * binadeSize + steps := by
  have hpos := binadeSize_pos
  generalize binadeSize = size at *
  have hsplit := Nat.div_add_mod magnitude size
  have hmod := Nat.mod_lt magnitude hpos
  cases hq : magnitude / size with
  | zero =>
    refine ⟨0, magnitude, Or.inl rfl, ?_, by omega⟩
    rw [hq] at hsplit
    omega
  | succ binade =>
    refine ⟨binade, size + magnitude % size, Or.inr (by omega), by omega, ?_⟩
    rw [hq, Nat.mul_succ, Nat.mul_comm] at hsplit
    omega

theorem units_lt_units_succ (magnitude : Nat) : units magnitude < units (magnitude + 1) := by
  obtain ⟨binade, steps, hfull, hsteps, rfl⟩ := exists_binade magnitude
  rw [Nat.add_assoc, units_binade hfull (Nat.le_of_lt hsteps),
    units_binade (hfull.imp_right Nat.le_succ_of_le) hsteps]
  exact Nat.mul_lt_mul_of_pos_right (Nat.lt_succ_self steps) (Nat.two_pow_pos binade)

theorem units_strictMono : StrictMono units := strictMono_nat_of_lt_succ units_lt_units_succ

/-- The size of the magnitude with a number, where the numbering goes on past the finite ones. -/
def size (magnitude : Nat) : Rat := units magnitude / unitsOfOne

theorem unitsOfOne_pos : (0 : Rat) < unitsOfOne := by
  rw [Nat.cast_pos]
  decide +kernel

theorem size_strictMono : StrictMono size := by
  intro m n h
  have hunits : (units m : Rat) < units n := by exact_mod_cast units_strictMono h
  exact div_lt_div_of_pos_right hunits unitsOfOne_pos

theorem size_zero : size 0 = 0 := by
  have hunits : units 0 = 0 := if_pos binadeSize_pos
  rw [size, hunits, Nat.cast_zero, zero_div]

/-- The first magnitude that is not finite. -/
theorem size_magnitudeCount : size magnitudeCount = 2 ^ 1024 := by
  have hunits : units magnitudeCount = 2 ^ 1024 * unitsOfOne := by decide +kernel
  rw [size, hunits, Nat.cast_mul, Nat.cast_pow, Nat.cast_ofNat]
  exact mul_div_cancel_right₀ _ unitsOfOne_pos.ne'

/-- A magnitude is nearest to a number: no other one is nearer, and where another one is as near
it is the even one of the two. -/
structure IsNearest (q : Rat) (magnitude : Nat) : Prop where
  le_distance : ∀ other, |size magnitude - q| ≤ |size other - q|
  even_of_tie : ∀ other, other ≠ magnitude → |size other - q| = |size magnitude - q| →
    Even magnitude

/-- Of the magnitudes up to one that is not above a number that one is the nearest. -/
theorem distance_of_le {q : Rat} {m below : Nat} (hm : m ≤ below) (hbelow : size below ≤ q) :
    |size below - q| ≤ |size m - q| ∧ (|size below - q| = |size m - q| → m = below) := by
  have hsize := size_strictMono.monotone hm
  rw [abs_of_nonpos (by linarith), abs_of_nonpos (by linarith)]
  refine ⟨by linarith, fun h => size_strictMono.injective (by linarith)⟩

theorem distance_of_ge {q : Rat} {m above : Nat} (hm : above ≤ m) (habove : q ≤ size above) :
    |size above - q| ≤ |size m - q| ∧ (|size above - q| = |size m - q| → m = above) := by
  have hsize := size_strictMono.monotone hm
  rw [abs_of_nonneg (by linarith), abs_of_nonneg (by linarith)]
  refine ⟨by linarith, fun h => size_strictMono.injective (by linarith)⟩

/-- Between two neighbours, the nearer one of these is nearest, and halfway the even one. -/
theorem isNearest_of_between {q : Rat} {below n : Nat} (hlow : size below ≤ q)
    (hhigh : q ≤ size (below + 1))
    (hn : n = below ∧ q - size below ≤ size (below + 1) - q ∨
      n = below + 1 ∧ size (below + 1) - q ≤ q - size below)
    (htie : q - size below = size (below + 1) - q → Even n) : IsNearest q n := by
  have hleft : |size below - q| = q - size below := by
    rw [abs_sub_comm, abs_of_nonneg (sub_nonneg.mpr hlow)]
  have hright : |size (below + 1) - q| = size (below + 1) - q :=
    abs_of_nonneg (sub_nonneg.mpr hhigh)
  constructor
  · intro other
    rcases Nat.lt_or_ge below other with h | h
    · have hother := (distance_of_ge h hhigh).1
      rcases hn with ⟨rfl, hhalf⟩ | ⟨rfl, _⟩
      · linarith
      · exact hother
    · have hother := (distance_of_le h hlow).1
      rcases hn with ⟨rfl, _⟩ | ⟨rfl, hhalf⟩
      · exact hother
      · linarith
  · intro other hne heq
    apply htie
    -- The other one is the other neighbour, and just as near.
    rcases Nat.lt_or_ge below other with h | h
    · obtain ⟨hle, hother⟩ := distance_of_ge h hhigh
      rcases hn with ⟨rfl, hhalf⟩ | ⟨rfl, _⟩
      · linarith
      · exact absurd (hother heq.symm) hne
    · obtain ⟨hle, hother⟩ := distance_of_le h hlow
      rcases hn with ⟨rfl, _⟩ | ⟨rfl, hhalf⟩
      · exact absurd (hother heq.symm) hne
      · linarith

namespace IsNearest

variable {q : Rat} {m n : Nat}

theorem le_of_size_le (h : IsNearest q n) (hm : size m ≤ q) : m ≤ n := by
  by_contra hlt
  obtain ⟨hle, heq⟩ := distance_of_le (Nat.le_of_not_le hlt) hm
  exact hlt (Nat.le_of_eq (heq (le_antisymm hle (h.le_distance m))).symm)

theorem le_of_le_size (h : IsNearest q n) (hm : q ≤ size m) : n ≤ m := by
  by_contra hlt
  obtain ⟨hle, heq⟩ := distance_of_ge (Nat.le_of_not_le hlt) hm
  exact hlt (Nat.le_of_eq (heq (le_antisymm hle (h.le_distance m))))

theorem refl (n : Nat) : IsNearest (size n) n := by
  constructor
  · intro other
    rw [sub_self, abs_zero]
    exact abs_nonneg _
  · intro other hne heq
    rw [sub_self, abs_zero, abs_eq_zero, sub_eq_zero] at heq
    exact absurd (size_strictMono.injective heq) hne

/-- Two nearest magnitudes would both be even, and one between them would be nearer. -/
theorem not_lt (hm : IsNearest q m) (hn : IsNearest q n) : ¬ m < n := by
  intro hlt
  have heq : |size m - q| = |size n - q| := le_antisymm (hm.le_distance n) (hn.le_distance m)
  have hevenm := hm.even_of_tie n hlt.ne' heq.symm
  have hevenn := hn.even_of_tie m hlt.ne heq
  have hgap : m + 1 < n := by
    rcases Nat.lt_or_eq_of_le (Nat.succ_le_of_lt hlt) with h | h
    · exact h
    · rw [← h] at hevenn
      exact absurd hevenm (Nat.even_add_one.mp hevenn)
  have hsizem := size_strictMono (Nat.lt_succ_self m)
  have hsizen := size_strictMono hgap
  have hbetween := hm.le_distance (m + 1)
  have hmiddle : size m - q = -(size n - q) := by
    rcases abs_eq_abs.mp heq with h | h
    · linarith
    · exact h
  rw [abs_of_nonpos (show size m - q ≤ 0 by linarith)] at hbetween
  rcases abs_cases (size (m + 1) - q) with ⟨h, _⟩ | ⟨h, _⟩
  · linarith
  · linarith

theorem unique (hm : IsNearest q m) (hn : IsNearest q n) : m = n :=
  Nat.le_antisymm (Nat.le_of_not_lt (hn.not_lt hm)) (Nat.le_of_not_lt (hm.not_lt hn))

end IsNearest

/-- A quotient is rounded down or up to the nearer integer, and halfway to the even one. -/
theorem roundQuotient_cases (num den : Nat) :
    (roundQuotient num den = num / den ∧ 2 * (num % den) ≤ den ∨
      roundQuotient num den = num / den + 1 ∧ den ≤ 2 * (num % den)) ∧
    (2 * (num % den) = den → Even (roundQuotient num den)) := by
  unfold roundQuotient
  dsimp only
  rw [Nat.even_iff]
  rcases Nat.lt_trichotomy (2 * (num % den)) den with h | h | h
  · rw [if_pos h]
    omega
  · rw [if_neg (by omega), if_neg (by omega)]
    omega
  · rw [if_neg (by omega), if_pos h]
    omega

/-- The steps at a quotient are those of the binade in which it lies. -/
theorem nearest_eq (num den : Nat) :
    ∃ binade, (binade = 0 ∨ binadeSize ≤ num * unitsOfOne / (den * 2 ^ binade)) ∧
      num * unitsOfOne / (den * 2 ^ binade) < 2 * binadeSize ∧
      nearest num den =
        binade * binadeSize + roundQuotient (num * unitsOfOne) (den * 2 ^ binade) := by
  refine ⟨Nat.log2 (num * unitsOfOne / den) + 1 - 53, ?_, ?_, rfl⟩
  all_goals
    rw [← Nat.div_div_eq_div_mul]
    generalize num * unitsOfOne / den = whole
    have hlast : whole < 2 ^ (Nat.log2 whole + 1) := Nat.lt_log2_self
  · rcases Nat.lt_or_ge (Nat.log2 whole) 53 with hsmall | hlarge
    · exact Or.inl (by omega)
    · right
      have hfirst : 2 ^ Nat.log2 whole ≤ whole := Nat.log2_self_le (by rintro rfl; simp at hlarge)
      rw [Nat.le_div_iff_mul_le (Nat.two_pow_pos _)]
      calc binadeSize * 2 ^ (Nat.log2 whole + 1 - 53)
          = 2 ^ (52 + (Nat.log2 whole + 1 - 53)) := by rw [pow_add]; rfl
        _ = 2 ^ Nat.log2 whole := by congr 1; omega
        _ ≤ whole := hfirst
  · rw [Nat.div_lt_iff_lt_mul (Nat.two_pow_pos _)]
    calc whole < 2 ^ (Nat.log2 whole + 1) := hlast
      _ ≤ 2 ^ (53 + (Nat.log2 whole + 1 - 53)) := Nat.pow_le_pow_right (by decide) (by omega)
      _ = 2 * binadeSize * 2 ^ (Nat.log2 whole + 1 - 53) := by rw [pow_add]; rfl

/-- Above the magnitude with as many steps as fit into a quotient, the quotient has the rest of
the division, which is counted in units of the denominator. -/
theorem sub_size_eq {binade steps num den rest : Nat} (hfull : binade = 0 ∨ binadeSize ≤ steps)
    (hsteps : steps ≤ 2 * binadeSize) (hden : 0 < den)
    (hsplit : den * 2 ^ binade * steps + rest = num * unitsOfOne) :
    (num / den : Rat) - size (binade * binadeSize + steps) = rest / (den * unitsOfOne) := by
  have hdenQ : (0 : Rat) < den := by exact_mod_cast hden
  have hsplitQ : (den * 2 ^ binade * steps + rest : Rat) = num * unitsOfOne := by
    exact_mod_cast hsplit
  rw [size, units_binade hfull hsteps, Nat.cast_mul, Nat.cast_pow, Nat.cast_ofNat,
    div_sub_div _ _ hdenQ.ne' unitsOfOne_pos.ne', ← hsplitQ]
  ring

/-- The next magnitude has above the quotient what the rest lacks of a step. -/
theorem size_sub_eq {binade steps num den rest : Nat} (hfull : binade = 0 ∨ binadeSize ≤ steps)
    (hsteps : steps < 2 * binadeSize) (hden : 0 < den)
    (hsplit : den * 2 ^ binade * steps + rest = num * unitsOfOne) :
    size (binade * binadeSize + steps + 1) - (num / den : Rat) =
      (den * 2 ^ binade - rest) / (den * unitsOfOne) := by
  have hdenQ : (0 : Rat) < den := by exact_mod_cast hden
  have hsplitQ : (den * 2 ^ binade * steps + rest : Rat) = num * unitsOfOne := by
    exact_mod_cast hsplit
  rw [Nat.add_assoc, size, units_binade (hfull.imp_right Nat.le_succ_of_le) hsteps,
    Nat.cast_mul, Nat.cast_pow, Nat.cast_ofNat, Nat.cast_succ,
    div_sub_div _ _ unitsOfOne_pos.ne' hdenQ.ne', mul_comm (unitsOfOne : Rat) num, ← hsplitQ,
    mul_comm (unitsOfOne : Rat) den]
  ring

/-- The number that is found for a quotient is that of the nearest magnitude. -/
theorem isNearest_nearest (num : Nat) {den : Nat} (hden : 0 < den) :
    IsNearest (num / den) (nearest num den) := by
  obtain ⟨binade, hfull, hsteps, hnearest⟩ := nearest_eq num den
  have hsplit := Nat.div_add_mod (num * unitsOfOne) (den * 2 ^ binade)
  have hrest := Nat.mod_lt (num * unitsOfOne) (Nat.mul_pos hden (Nat.two_pow_pos binade))
  obtain ⟨hround, htie⟩ := roundQuotient_cases (num * unitsOfOne) (den * 2 ^ binade)
  revert hfull hsteps hsplit hrest hround htie
  rw [hnearest]
  generalize num * unitsOfOne / (den * 2 ^ binade) = steps
  generalize num * unitsOfOne % (den * 2 ^ binade) = rest
  generalize roundQuotient (num * unitsOfOne) (den * 2 ^ binade) = rounded
  intro hfull hsteps hsplit hrest hround htie
  have hbelow := sub_size_eq hfull (Nat.le_of_lt hsteps) hden hsplit
  have habove := size_sub_eq hfull hsteps hden hsplit
  have hscale : (0 : Rat) < den * unitsOfOne :=
    mul_pos (by exact_mod_cast hden) unitsOfOne_pos
  have hrestle : (rest : Rat) ≤ den * 2 ^ binade := by exact_mod_cast hrest.le
  have heven : Even (binade * binadeSize) := even_binadeSize.mul_left binade
  clear hnearest hfull hsteps hsplit
  generalize binade * binadeSize = base at *
  have hlow : size (base + steps) ≤ num / den := by
    rw [← sub_nonneg, hbelow]
    exact div_nonneg (Nat.cast_nonneg _) hscale.le
  have hhigh : num / den ≤ size (base + steps + 1) := by
    rw [← sub_nonneg, habove]
    exact div_nonneg (sub_nonneg.mpr hrestle) hscale.le
  refine isNearest_of_between hlow hhigh ?_ ?_
  · rw [hbelow, habove, div_le_div_iff_of_pos_right hscale, div_le_div_iff_of_pos_right hscale]
    rcases hround with ⟨rfl, hhalf⟩ | ⟨rfl, hhalf⟩
    · have hhalf : (2 * rest : Rat) ≤ den * 2 ^ binade := by exact_mod_cast hhalf
      exact Or.inl ⟨rfl, by linarith only [hhalf]⟩
    · have hhalf : (den * 2 ^ binade : Rat) ≤ 2 * rest := by exact_mod_cast hhalf
      exact Or.inr ⟨(Nat.add_assoc ..).symm, by linarith only [hhalf]⟩
  · intro heq
    rw [hbelow, habove, div_left_inj' hscale.ne'] at heq
    have hhalf : (2 * rest : Rat) = den * 2 ^ binade := by linarith only [heq]
    exact heven.add (htie (by exact_mod_cast hhalf))

/-- What a number with a sign and a size is rounded to: the magnitude nearest to its size, or
nothing if that magnitude reaches `2 ^ 1024`. -/
inductive RoundsTo (negative : Bool) (q : Rat) : Option Binary64 → Prop where
  | finite (magnitude : Fin magnitudeCount) (hnearest : IsNearest q magnitude) :
      RoundsTo negative q (some (.finite negative magnitude))
  | tooLarge {magnitude : Nat} (hnearest : IsNearest q magnitude)
      (hlarge : 2 ^ 1024 ≤ size magnitude) : RoundsTo negative q none

theorem two_pow_le_size_iff (magnitude : Nat) :
    2 ^ 1024 ≤ size magnitude ↔ magnitudeCount ≤ magnitude := by
  rw [← size_magnitudeCount, size_strictMono.le_iff_le]

namespace RoundsTo

variable {negative : Bool} {q : Rat} {x y : Option Binary64}

theorem unique (hx : RoundsTo negative q x) (hy : RoundsTo negative q y) : x = y := by
  cases hx with
  | finite m hm =>
    cases hy with
    | finite n hn => rw [Fin.ext (hm.unique hn)]
    | tooLarge hn hlarge =>
      rw [two_pow_le_size_iff, ← hm.unique hn] at hlarge
      exact absurd m.isLt (Nat.not_lt_of_le hlarge)
  | tooLarge hm hlarge =>
    cases hy with
    | finite n hn =>
      rw [two_pow_le_size_iff, hm.unique hn] at hlarge
      exact absurd n.isLt (Nat.not_lt_of_le hlarge)
    | tooLarge => rfl

/-- What lies beyond all finite magnitudes is rounded to none of them. -/
theorem of_two_pow_le (hq : 2 ^ 1024 ≤ q) {magnitude : Nat} (h : IsNearest q magnitude) :
    RoundsTo negative q none := by
  refine tooLarge h ((two_pow_le_size_iff magnitude).mpr (h.le_of_size_le ?_))
  rwa [size_magnitudeCount]

end RoundsTo

theorem roundsTo_ofQuotient? (negative : Bool) (num : Nat) {den : Nat} (hden : 0 < den) :
    RoundsTo negative (num / den) (ofQuotient? negative num den) := by
  have hnearest := isNearest_nearest num hden
  unfold ofQuotient?
  split
  · rename_i h
    exact .finite ⟨nearest num den, h⟩ hnearest
  · rename_i h
    exact .tooLarge hnearest ((two_pow_le_size_iff _).mpr (Nat.le_of_not_lt h))

theorem roundsTo_ofInt? (n : Int) : RoundsTo (n < 0) |(n : Rat)| (ofInt? n) := by
  have h := roundsTo_ofQuotient? (n < 0) n.natAbs Nat.one_pos
  rwa [Nat.cast_one, div_one, Nat.cast_natAbs, Int.cast_abs] at h

theorem isNearest_zero {q : Rat} (hq : 0 ≤ q) (hsmall : q < size 1 / 2) : IsNearest q 0 := by
  have hlow : size 0 ≤ q := size_zero.le.trans hq
  have hhalf : q - size 0 < size (0 + 1) - q := by
    rw [size_zero, Nat.zero_add]
    linarith only [hsmall]
  refine isNearest_of_between hlow ?_ (Or.inl ⟨rfl, hhalf.le⟩) fun h => absurd h hhalf.ne
  linarith only [hlow, hhalf]

theorem exists_isNearest {q : Rat} (hq : 0 ≤ q) : ∃ magnitude, IsNearest q magnitude := by
  have h := isNearest_nearest q.num.toNat q.den_pos
  have hnum : ((q.num.toNat : Nat) : Rat) = q.num := by
    exact_mod_cast Int.toNat_of_nonneg (Rat.num_nonneg.mpr hq)
  rw [hnum, Rat.num_div_den] at h
  exact ⟨_, h⟩

end Binary64

namespace Decimal

/-- The size of a decimal number. -/
def size (d : Decimal) : Rat := d.coefficient * 10 ^ d.exponent

theorem size_nonneg (d : Decimal) : 0 ≤ d.size :=
  mul_nonneg (Nat.cast_nonneg _) (zpow_nonneg (by norm_num) _)

/-- A decimal number with an exponent of 400 lies beyond all finite magnitudes. -/
theorem two_pow_le_size {d : Decimal} (hd : d.coefficient ≠ 0) (he : 400 ≤ d.exponent) :
    2 ^ 1024 ≤ d.size := by
  have hpowers : (2 : Rat) ^ 1024 ≤ 10 ^ 400 := by
    exact_mod_cast (show 2 ^ 1024 ≤ 10 ^ 400 by decide +kernel)
  have hexponent : (10 : Rat) ^ (400 : Int) ≤ 10 ^ d.exponent :=
    zpow_le_zpow_right₀ (by norm_num) he
  have hcoefficient : (1 : Rat) ≤ d.coefficient := by
    exact_mod_cast Nat.one_le_iff_ne_zero.mpr hd
  calc (2 : Rat) ^ 1024 ≤ 10 ^ 400 := hpowers
    _ = 10 ^ (400 : Int) := (zpow_natCast 10 400).symm
    _ ≤ 10 ^ d.exponent := hexponent
    _ ≤ d.size := le_mul_of_one_le_left (zpow_nonneg (by norm_num) _) hcoefficient

/-- A decimal number below `10 ^ -400` is less than half of the first magnitude above zero. -/
theorem size_lt {d : Decimal} (he : d.exponent + (Nat.log2 d.coefficient + 1) ≤ -400) :
    d.size < Binary64.size 1 / 2 := by
  have hcoefficient : (d.coefficient : Rat) < 10 ^ (Nat.log2 d.coefficient + 1) := by
    have hlog : d.coefficient < 2 ^ (Nat.log2 d.coefficient + 1) := Nat.lt_log2_self
    exact_mod_cast hlog.trans_le (Nat.pow_le_pow_left (by decide) _)
  have hten : (0 : Rat) < 10 ^ d.exponent := zpow_pos (by norm_num) _
  have hpowers : (2 * Binary64.unitsOfOne : Rat) ≤ 10 ^ 400 := by
    exact_mod_cast (show 2 * Binary64.unitsOfOne ≤ 10 ^ 400 by decide +kernel)
  have hunit : Binary64.size 1 = 1 / Binary64.unitsOfOne := by
    rw [Binary64.size, show Binary64.units 1 = 1 from rfl, Nat.cast_one]
  calc d.size < 10 ^ (Nat.log2 d.coefficient + 1) * 10 ^ d.exponent :=
        mul_lt_mul_of_pos_right hcoefficient hten
    _ = 10 ^ (d.exponent + (Nat.log2 d.coefficient + 1)) := by
        rw [zpow_add₀ (by norm_num), mul_comm]
        norm_cast
    _ ≤ 10 ^ (-400 : Int) := zpow_le_zpow_right₀ (by norm_num) he
    _ = 1 / 10 ^ 400 := by rw [zpow_neg, one_div, zpow_ofNat]
    _ ≤ 1 / (2 * Binary64.unitsOfOne) :=
        one_div_le_one_div_of_le (mul_pos two_pos Binary64.unitsOfOne_pos) hpowers
    _ = Binary64.size 1 / 2 := by rw [hunit, div_div, mul_comm]

end Decimal

namespace Binary64

theorem roundsTo_ofDecimal? (d : Decimal) : RoundsTo d.negative d.size (ofDecimal? d) := by
  unfold ofDecimal?
  split
  · rename_i hzero
    have hsize : d.size = size 0 := by rw [Decimal.size, hzero, Nat.cast_zero, zero_mul, size_zero]
    rw [hsize]
    exact .finite ⟨0, by decide⟩ (IsNearest.refl 0)
  · rename_i hzero
    split
    · rename_i hlarge
      obtain ⟨magnitude, h⟩ := exists_isNearest (d.size_nonneg)
      exact .of_two_pow_le (Decimal.two_pow_le_size hzero hlarge) h
    · split
      · rename_i hsmall
        exact .finite ⟨0, by decide⟩
          (isNearest_zero (d.size_nonneg) (Decimal.size_lt hsmall))
      · split
        · rename_i hwhole
          have h := roundsTo_ofQuotient? d.negative
            (d.coefficient * 10 ^ d.exponent.toNat) Nat.one_pos
          have hsize : d.size = (d.coefficient * 10 ^ d.exponent.toNat : Nat) / (1 : Nat) := by
            rw [Decimal.size, Nat.cast_one, div_one, Nat.cast_mul, Nat.cast_pow, Nat.cast_ofNat,
              ← zpow_natCast, Int.toNat_of_nonneg hwhole]
          rw [hsize]
          exact h
        · rename_i hwhole
          have h := roundsTo_ofQuotient? d.negative d.coefficient
            (show 0 < 10 ^ (-d.exponent).toNat from Nat.pow_pos (by decide))
          have hsize : d.size = d.coefficient / (10 ^ (-d.exponent).toNat : Nat) := by
            rw [Decimal.size, Nat.cast_pow, Nat.cast_ofNat, ← zpow_natCast,
              Int.toNat_of_nonneg (by omega), zpow_neg, div_inv_eq_mul]
          rw [hsize]
          exact h

end Binary64
end FilterPipeline
