import FilterPipeline.Proofs.NumberReading

/-!
The texts that integers are written as. They are read as the integers themselves, and with a zero
fraction as the nearest binary numbers of what they are read as, so that integers and decimal
fractions agree on where numbers are rounded and where they end. A number that has been read is
read as itself.
-/

namespace FilterPipeline

open Text

namespace Text

theorem isAsciiDigit_of_mem_decimal {c : Char} {n : Nat} (h : c ∈ decimal n) :
    isAsciiDigit c = true := by
  have hdigit : c.isDigit = true := Nat.isDigit_of_mem_toDigits (by decide) (by decide) h
  rw [Char.isDigit, Bool.and_eq_true, decide_eq_true_iff, decide_eq_true_iff] at hdigit
  exact decide_eq_true hdigit

theorem asciiNumber_zeros_decimal (zeros n : Nat) :
    asciiNumber (List.replicate zeros '0' ++ decimal n) = n := by
  rw [asciiNumber_eq_ofDigitChars, Nat.ofDigitChars_append, Nat.ofDigitChars_replicate_zero]
  exact Nat.ofDigitChars_ten_toDigits

end Text

namespace Decimal

/-- A text of an integer: its digits, with a sign that is left out or positive unless the integer
is negative, and with zeros before them. -/
inductive Writes : Int → List Char → Prop where
  | mk {n : Int} {sign : List Char} (hsign : IsSign sign (n < 0)) (zeros : Nat)
      (hlength : zeros + (decimal n.natAbs).length ≤ 4300) :
      Writes n (sign ++ (List.replicate zeros '0' ++ decimal n.natAbs))

theorem signed_natAbs (n : Int) : signed (n < 0) n.natAbs = n := by
  unfold signed
  split
  · rename_i h
    have hn : n < 0 := of_decide_eq_true h
    omega
  · rename_i h
    have hn : ¬ n < 0 := of_decide_eq_false (Bool.eq_false_of_not_eq_true h)
    omega

/-- The sign and the digits of a text of an integer. -/
theorem Writes.parts {n : Int} {cs : List Char} (h : Writes n cs) :
    ∃ sign digits, cs = sign ++ digits ∧ IsSign sign (n < 0) ∧ digits ≠ [] ∧ AllDigits digits ∧
      digits.length ≤ 4300 ∧ asciiNumber digits = n.natAbs := by
  obtain ⟨hsign, zeros, hlength⟩ := h
  refine ⟨_, _, rfl, hsign, ?_, ?_, ?_, asciiNumber_zeros_decimal zeros _⟩
  · exact List.append_ne_nil_of_right_ne_nil _ Nat.toDigits_ne_nil
  · intro c hc
    rcases List.mem_append.mp hc with hzero | hdigit
    · rw [List.eq_of_mem_replicate hzero]
      decide
    · exact isAsciiDigit_of_mem_decimal hdigit
  · rwa [List.length_append, List.length_replicate]

theorem IsSign.isBlank_eq_false {sign : List Char} {negative : Bool} (h : IsSign sign negative) :
    ∀ c ∈ sign, isBlank c = false := by
  cases h with
  | absent => exact List.forall_mem_nil _
  | plus | minus => exact List.forall_mem_singleton.mpr (by decide)

theorem Writes.isBlank_eq_false {n : Int} {cs : List Char} (h : Writes n cs) :
    ∀ c ∈ cs, isBlank c = false := by
  obtain ⟨sign, digits, rfl, hsign, -, hdigits, -, -⟩ := h.parts
  exact List.forall_mem_append.mpr
    ⟨hsign.isBlank_eq_false, fun c hc => isBlank_of_isAsciiDigit (hdigits c hc)⟩

/-- A point makes a text of an integer one of a decimal fraction. -/
theorem not_isInteger_of_point_mem {cs digits : List Char} {negative : Bool} (hpoint : '.' ∈ cs) :
    ¬ IsInteger cs negative digits := by
  rintro ⟨hsign, hne, hdigits⟩
  rcases List.mem_append.mp hpoint with h | h
  · cases hsign <;> revert h <;> decide
  · exact absurd (hdigits _ h) (by decide)

theorem Writes.isLiteral {n : Int} {cs : List Char} (h : Writes n cs) :
    IsLiteral (cs ++ ['.', '0']) (n < 0) |(n : Rat)| := by
  obtain ⟨sign, digits, rfl, hsign, hne, hdigits, -, hnumber⟩ := h.parts
  have hzero : AllDigits ['0'] := List.forall_mem_singleton.mpr (by decide)
  have hliteral := IsLiteral.mk hsign (.pointed (Or.inl hne) hdigits hzero) .absent
  have hsize : ((asciiNumber digits + asciiNumber ['0'] / 10 ^ ['0'].length) * 10 ^ (0 : Int) : Rat)
      = |(n : Rat)| := by
    have hzero : asciiNumber ['0'] = 0 := by decide
    rw [hnumber, hzero, Nat.cast_zero, zero_div, add_zero, zpow_zero, mul_one, Nat.cast_natAbs,
      Int.cast_abs]
  rw [hsize, List.append_nil, ← List.append_assoc] at hliteral
  exact hliteral

end Decimal

namespace Binary64

/-- The value of a finite number. -/
def value? (x : Binary64) : Option Rat :=
  x.signedUnits?.map fun n : Int => (n : Rat) / unitsOfOne

theorem value?_finite (negative : Bool) (magnitude : Fin magnitudeCount) :
    (finite negative magnitude).value? =
      some (if negative then -size magnitude else size magnitude) := by
  cases negative with
  | true =>
    rw [value?, signedUnits?, Option.map_some, if_pos rfl, if_pos rfl, size, Int.cast_neg,
      Int.cast_natCast, neg_div]
  | false =>
    rw [value?, signedUnits?, Option.map_some, if_neg Bool.false_ne_true, if_neg Bool.false_ne_true,
      size, Int.cast_natCast]

/-- A finite number is the nearest one to its own value. -/
theorem roundsTo_value {negative : Bool} {magnitude : Fin magnitudeCount}
    (h : 0 < magnitude.val) :
    ∃ q, (finite negative magnitude).value? = some q ∧
      RoundsTo (q < 0) |q| (some (finite negative magnitude)) := by
  have hpos : 0 < size magnitude := by
    rw [← size_zero]
    exact size_strictMono h
  have hrounds : RoundsTo negative (size magnitude) (some (finite negative magnitude)) :=
    .finite magnitude (IsNearest.refl _)
  refine ⟨_, value?_finite negative magnitude, ?_⟩
  cases negative with
  | true => simpa [hpos, abs_of_pos hpos] using hrounds
  | false => simpa [not_lt_of_gt hpos, abs_of_pos hpos] using hrounds

/-- The magnitude of `2 ^ 63`. -/
theorem size_two_pow : size (1086 * binadeSize) = 2 ^ 63 := by
  have hunits : units (1086 * binadeSize) = 2 ^ 63 * unitsOfOne := by decide +kernel
  rw [size, hunits, Nat.cast_mul, Nat.cast_pow, Nat.cast_ofNat]
  exact mul_div_cancel_right₀ _ unitsOfOne_pos.ne'

/-- An integer of 64 bits is rounded to a finite number. -/
theorem exists_ofInt?_of_range {n : Int} (h : -2 ^ 63 ≤ n ∧ n ≤ 2 ^ 63 - 1) :
    ∃ x, ofInt? n = some x := by
  have hrounds := roundsTo_ofInt? n
  generalize ofInt? n = result at hrounds
  cases hrounds with
  | finite magnitude => exact ⟨_, rfl⟩
  | @tooLarge magnitude hnearest hlarge =>
    have hsize : |(n : Rat)| ≤ size (1086 * binadeSize) := by
      rw [size_two_pow, ← Int.cast_abs]
      exact_mod_cast abs_le.mpr ⟨h.1, by omega⟩
    have hle := hnearest.le_of_le_size hsize
    rw [two_pow_le_size_iff] at hlarge
    exact absurd (hlarge.trans hle) (by decide)

theorem one_le_unitsOfOne : (1 : Rat) ≤ unitsOfOne := by
  exact_mod_cast (show 1 ≤ unitsOfOne by decide +kernel)

/-- The number that an integer other than zero is rounded to is the nearest one to itself. -/
theorem roundsTo_value_of_ofInt? {n : Int} (hn : n ≠ 0) {x : Binary64} (hx : ofInt? n = some x) :
    ∃ q, x.value? = some q ∧ RoundsTo (q < 0) |q| (some x) := by
  have hrounds := roundsTo_ofInt? n
  rw [hx] at hrounds
  cases hrounds with
  | finite magnitude hnearest =>
    have hone : size 1 ≤ |(n : Rat)| := by
      calc size 1 = 1 / unitsOfOne := by rw [size, show units 1 = 1 from rfl, Nat.cast_one]
        _ ≤ 1 := div_le_one_of_le₀ one_le_unitsOfOne unitsOfOne_pos.le
        _ ≤ |(n : Rat)| := by exact_mod_cast Int.one_le_abs hn
    exact roundsTo_value (hnearest.le_of_size_le hone)

end Binary64

namespace Number

open Decimal

variable {n : Int} {cs : List Char}

/-- The value of a number, if it is finite. -/
def value? : Number → Option Rat
  | .integer n => some n
  | .binary x => x.value?

theorem toNumber?_int {x : Option Binary64} (hx : Binary64.RoundsTo (n < 0) |(n : Rat)| x) :
    (Value.int n).toNumber? =
      if -2 ^ 63 ≤ n ∧ n ≤ 2 ^ 63 - 1 then some (.integer n) else x.map .binary := by
  rw [Value.toNumber?]
  split
  · rename_i hrange
    exact ofInt?_of_range hrange
  · rename_i hrange
    rw [ofInt?_of_not_range hrange, (Binary64.roundsTo_ofInt? n).unique hx]

theorem toNumber?_text (cs : List Char) :
    (Value.text (String.ofList cs)).toNumber? = ofText? (strip cs) := by
  rw [Value.toNumber?, String.toList_ofList]

theorem toNumber?_padded (h : Writes n cs) {front back : List Char}
    (hfront : ∀ c ∈ front, isBlank c = true) (hback : ∀ c ∈ back, isBlank c = true) :
    (Value.text (String.ofList (front ++ cs ++ back))).toNumber? = (Value.int n).toNumber? := by
  rw [toNumber?_text, strip_padded hfront h.isBlank_eq_false hback]
  obtain ⟨sign, digits, rfl, hsign, hne, hdigits, hlength, hnumber⟩ := h.parts
  rw [ofText?_of_isInteger (.mk hsign hne hdigits), if_pos hlength, hnumber, signed_natAbs]
  rfl

theorem toNumber?_of_writes (h : Writes n cs) :
    (Value.text (String.ofList cs)).toNumber? = (Value.int n).toNumber? := by
  have hpadded := toNumber?_padded h (List.forall_mem_nil _) (List.forall_mem_nil _)
  rwa [List.nil_append, List.append_nil] at hpadded

theorem toNumber?_fraction (h : Writes n cs) :
    (Value.text (String.ofList (cs ++ ['.', '0']))).toNumber? =
      (Binary64.ofInt? n).map .binary := by
  have hpoint : ∀ c ∈ ['.', '0'], isBlank c = false :=
    List.forall_mem_cons.mpr ⟨by decide, List.forall_mem_singleton.mpr (by decide)⟩
  have hblank : ∀ c ∈ cs ++ ['.', '0'], isBlank c = false :=
    List.forall_mem_append.mpr ⟨h.isBlank_eq_false, hpoint⟩
  have hstrip : strip (cs ++ ['.', '0']) = cs ++ ['.', '0'] := by
    have hpadded := strip_padded (List.forall_mem_nil _) hblank (List.forall_mem_nil _)
    rwa [List.nil_append, List.append_nil] at hpadded
  rw [toNumber?_text, hstrip]
  exact ofText?_of_isLiteral (fun _ _ => not_isInteger_of_point_mem (by simp)) h.isLiteral
    (Binary64.roundsTo_ofInt? n)

/-- Integers and decimal fractions end at the same place. -/
theorem ofInt?_eq_none_iff : ofInt? n = none ↔ Binary64.ofInt? n = none := by
  by_cases hrange : -2 ^ 63 ≤ n ∧ n ≤ 2 ^ 63 - 1
  · obtain ⟨x, hx⟩ := Binary64.exists_ofInt?_of_range hrange
    simp [ofInt?_of_range hrange, hx]
  · rw [ofInt?_of_not_range hrange, Option.map_eq_none_iff]

/-- Rounding an integer once and rounding it again after it has been read come to the same. -/
theorem exists_nearest_of_ofInt? {number : Number} (h : ofInt? n = some number) :
    ∃ q x, number.value? = some q ∧ Binary64.ofInt? n = some x ∧
      Binary64.RoundsTo (q < 0) |q| (some x) := by
  by_cases hrange : -2 ^ 63 ≤ n ∧ n ≤ 2 ^ 63 - 1
  · obtain ⟨x, hx⟩ := Binary64.exists_ofInt?_of_range hrange
    rw [ofInt?_of_range hrange] at h
    rw [← Option.some.inj h]
    have hrounds := Binary64.roundsTo_ofInt? n
    rw [hx] at hrounds
    exact ⟨n, x, rfl, hx, by simpa using hrounds⟩
  · rw [ofInt?_of_not_range hrange] at h
    obtain ⟨x, hx, rfl⟩ := Option.map_eq_some_iff.mp h
    -- The sign of zero would be lost, but zero is not among the integers that are rounded.
    have hne : n ≠ 0 := by
      rintro rfl
      exact hrange (by decide)
    obtain ⟨q, hq, hrounds⟩ := Binary64.roundsTo_value_of_ofInt? hne hx
    exact ⟨q, x, hq, hx, hrounds⟩

/-- An integer that does not fit is rounded. A text of an integer is read as the integer itself,
also between white space, and with a zero fraction as the nearest binary number. What has been read
is read as itself. -/
theorem integer_texts_agree :
    (∀ (n : Int) (x : Option Binary64), Binary64.RoundsTo (n < 0) |(n : Rat)| x →
      (Value.int n).toNumber? =
        if -2 ^ 63 ≤ n ∧ n ≤ 2 ^ 63 - 1 then some (.integer n) else x.map .binary) ∧
    (∀ (n : Int) (cs : List Char), Writes n cs →
      (∀ front back : List Char, (∀ c ∈ front, isBlank c = true) →
        (∀ c ∈ back, isBlank c = true) →
        (Value.text (String.ofList (front ++ cs ++ back))).toNumber? = (Value.int n).toNumber?) ∧
      ((Value.text (String.ofList (cs ++ ['.', '0']))).toNumber? = none ↔
        (Value.text (String.ofList cs)).toNumber? = none) ∧
      ∀ number, (Value.text (String.ofList cs)).toNumber? = some number → ∃ q x,
        number.value? = some q ∧
        (Value.text (String.ofList (cs ++ ['.', '0']))).toNumber? = some (.binary x) ∧
        Binary64.RoundsTo (q < 0) |q| (some x)) ∧
    ∀ (v : Value) (number : Number),
      v.toNumber? = some number → number.toValue.toNumber? = some number := by
  refine ⟨fun n x hx => toNumber?_int hx, fun n cs h => ?_, fun v number h => ?_⟩
  · rw [toNumber?_of_writes h, toNumber?_fraction h]
    refine ⟨fun front back hfront hback => toNumber?_padded h hfront hback, ?_, ?_⟩
    · rw [Option.map_eq_none_iff]
      exact ofInt?_eq_none_iff.symm
    · intro number hnumber
      obtain ⟨q, x, hq, hx, hrounds⟩ := exists_nearest_of_ofInt? hnumber
      exact ⟨q, x, hq, by rw [hx, Option.map_some], hrounds⟩
  · exact toNumber?_toValue (isStorable_of_toNumber? h)

/-- The first integer that has no 64 bits, and the negative zero. -/
theorem integer_texts_agree_beyond :
    let text := ['+'] ++ (List.replicate 2 '0' ++ decimal 9223372036854775808)
    (Value.text (String.ofList ([' '] ++ text ++ ['\n']))).toNumber? =
        (Value.int 9223372036854775808).toNumber? ∧
      ((Value.text (String.ofList (text ++ ['.', '0']))).toNumber? = none ↔
        (Value.text (String.ofList text)).toNumber? = none) ∧
      (Number.binary (.zero true)).toValue.toNumber? = some (.binary (.zero true)) := by
  intro text
  have hwrites : Writes 9223372036854775808 text := .mk .plus 2 (by decide +kernel)
  obtain ⟨hpadded, hnone, -⟩ := integer_texts_agree.2.1 _ _ hwrites
  have hspace : ∀ c ∈ [' '], isBlank c = true := List.forall_mem_singleton.mpr (by decide)
  have hline : ∀ c ∈ ['\n'], isBlank c = true := List.forall_mem_singleton.mpr (by decide)
  exact ⟨hpadded [' '] ['\n'] hspace hline, hnone,
    integer_texts_agree.2.2 (.text "-0.0") _ (by decide +kernel)⟩

end Number

end FilterPipeline
