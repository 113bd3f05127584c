import FilterPipeline.Proofs.NearestBinary
import Mathlib.Data.List.TakeWhile

/-!
The grammar of decimal literals. An integer literal is an optional sign and one or more digits. A
decimal literal is an optional sign, digits with at most one point before, among or after them,
and an optional exponent. The readers accept these texts and no others, and the number that is
read is the one that the parts of the text spell.
-/

namespace FilterPipeline

open Text

theorem asciiNumber_eq_ofDigitChars (cs : List Char) :
    asciiNumber cs = Nat.ofDigitChars 10 cs 0 := by
  rw [Nat.ofDigitChars_eq_foldl, asciiNumber, ofDigits, List.foldl_map]
  rfl

/-- The digits of two texts in a row spell the first number, moved by the length of the second
text, and the second number. -/
theorem asciiNumber_append (whole fraction : List Char) :
    asciiNumber (whole ++ fraction) =
      asciiNumber whole * 10 ^ fraction.length + asciiNumber fraction := by
  simp only [asciiNumber_eq_ofDigitChars, Nat.ofDigitChars_append]
  rw [Nat.ofDigitChars_eq_ofDigitChars_zero, Nat.mul_comm]

namespace Decimal

/-- All characters of a text are ASCII digits. -/
def AllDigits (cs : List Char) : Prop := ∀ c ∈ cs, isAsciiDigit c = true

theorem all_isAsciiDigit_iff (cs : List Char) : cs.all isAsciiDigit = true ↔ AllDigits cs :=
  List.all_eq_true

/-- A text that begins with something else than a digit. -/
def StartsNoDigit (cs : List Char) : Prop := ∀ c ∈ cs.head?, isAsciiDigit c = false

theorem takeWhile_digits {digits rest : List Char} (hdigits : AllDigits digits)
    (hrest : StartsNoDigit rest) : (digits ++ rest).takeWhile isAsciiDigit = digits := by
  rw [List.takeWhile_append_of_pos hdigits]
  cases rest with
  | nil => simp
  | cons c cs => rw [List.takeWhile_cons_of_neg (by simp [hrest c rfl]), List.append_nil]

theorem dropWhile_digits {digits rest : List Char} (hdigits : AllDigits digits)
    (hrest : StartsNoDigit rest) : (digits ++ rest).dropWhile isAsciiDigit = rest := by
  rw [List.dropWhile_append_of_pos hdigits]
  cases rest with
  | nil => rfl
  | cons c cs => rw [List.dropWhile_cons_of_neg (by simp [hrest c rfl])]

theorem allDigits_takeWhile (cs : List Char) : AllDigits (cs.takeWhile isAsciiDigit) :=
  fun _ h => List.mem_takeWhile_imp h

/-- A sign, which may be left out, and whether it makes a number negative. -/
inductive IsSign : List Char → Bool → Prop where
  | absent : IsSign [] false
  | plus : IsSign ['+'] false
  | minus : IsSign ['-'] true

theorem splitSign_append {sign rest : List Char} {negative : Bool} (hsign : IsSign sign negative)
    (hrest : ∀ c ∈ rest.head?, c ≠ '-' ∧ c ≠ '+') :
    splitSign (sign ++ rest) = (negative, rest) := by
  cases hsign with
  | absent =>
    cases rest with
    | nil => rfl
    | cons c cs =>
      obtain ⟨hminus, hplus⟩ := hrest c rfl
      rw [List.nil_append, splitSign]
      · simpa using hminus
      · simpa using hplus
  | plus => rfl
  | minus => rfl

theorem exists_sign (cs : List Char) :
    ∃ sign negative rest, splitSign cs = (negative, rest) ∧ IsSign sign negative ∧
      cs = sign ++ rest := by
  unfold splitSign
  split
  · exact ⟨['-'], true, _, rfl, .minus, rfl⟩
  · exact ⟨['+'], false, _, rfl, .plus, rfl⟩
  · exact ⟨[], false, _, rfl, .absent, rfl⟩

theorem ne_sign_of_isAsciiDigit {c : Char} (h : isAsciiDigit c = true) : c ≠ '-' ∧ c ≠ '+' := by
  constructor
  · rintro rfl
    revert h
    decide
  · rintro rfl
    revert h
    decide

/-- An integer literal with its sign and its digits. -/
inductive IsInteger : List Char → Bool → List Char → Prop where
  | mk {sign digits : List Char} {negative : Bool} (hsign : IsSign sign negative)
      (hne : digits ≠ []) (hdigits : AllDigits digits) : IsInteger (sign ++ digits) negative digits

theorem integerDigits?_of_splitSign {cs digits : List Char} {negative : Bool}
    (h : splitSign cs = (negative, digits)) :
    integerDigits? cs =
      if digits ≠ [] ∧ digits.all isAsciiDigit then some (negative, digits) else none := by
  simp only [integerDigits?, h]

theorem integerDigits?_eq_some_iff {cs digits : List Char} {negative : Bool} :
    integerDigits? cs = some (negative, digits) ↔ IsInteger cs negative digits := by
  constructor
  · intro h
    obtain ⟨sign, negative', rest, hsplit, hsign, rfl⟩ := exists_sign cs
    rw [integerDigits?_of_splitSign hsplit] at h
    split at h
    · rename_i hdigits
      obtain ⟨rfl, rfl⟩ := Prod.mk.inj (Option.some.inj h)
      exact .mk hsign hdigits.1 ((all_isAsciiDigit_iff _).mp hdigits.2)
    · cases h
  · rintro ⟨hsign, hne, hdigits⟩
    have hsplit := splitSign_append hsign fun c hc =>
      ne_sign_of_isAsciiDigit (hdigits c (List.mem_of_mem_head? hc))
    rw [integerDigits?_of_splitSign hsplit,
      if_pos ⟨hne, (all_isAsciiDigit_iff _).mpr hdigits⟩]

/-- An exponent, which may be left out and is zero then. -/
inductive IsExponent : List Char → Int → Prop where
  | absent : IsExponent [] 0
  | present {mark : Char} {cs digits : List Char} {negative : Bool}
      (hmark : mark = 'e' ∨ mark = 'E') (hdigits : IsInteger cs negative digits) :
      IsExponent (mark :: cs) (signed negative (asciiNumber digits))

theorem readExponent?_eq_some_iff {cs : List Char} {e : Int} :
    readExponent? cs = some e ↔ IsExponent cs e := by
  constructor
  · intro h
    cases cs with
    | nil =>
      rw [← Option.some.inj h]
      exact .absent
    | cons mark cs =>
      rw [readExponent?] at h
      split at h
      · rename_i hmark
        obtain ⟨⟨negative, digits⟩, hdigits, rfl⟩ := Option.map_eq_some_iff.mp h
        exact .present hmark (integerDigits?_eq_some_iff.mp hdigits)
      · cases h
  · intro h
    cases h with
    | absent => rfl
    | present hmark hdigits =>
      rw [readExponent?, if_pos hmark, integerDigits?_eq_some_iff.mpr hdigits, Option.map_some]

theorem IsExponent.head_eq {cs : List Char} {e : Int} (h : IsExponent cs e) :
    ∀ c ∈ cs.head?, c = 'e' ∨ c = 'E' := by
  cases h with
  | absent => simp
  | present hmark => simpa using hmark

/-- Digits with at most one point, taken apart into those before and those after it. -/
inductive IsMantissa : List Char → List Char → List Char → Prop where
  | whole {digits : List Char} (hne : digits ≠ []) (hdigits : AllDigits digits) :
      IsMantissa digits digits []
  | pointed {whole fraction : List Char} (hne : whole ≠ [] ∨ fraction ≠ [])
      (hwhole : AllDigits whole) (hfraction : AllDigits fraction) :
      IsMantissa (whole ++ '.' :: fraction) whole fraction

/-- A decimal literal with its sign and the size of the number that it denotes. -/
inductive IsLiteral : List Char → Bool → Rat → Prop where
  | mk {sign mantissa whole fraction exponent : List Char} {negative : Bool} {e : Int}
      (hsign : IsSign sign negative) (hmantissa : IsMantissa mantissa whole fraction)
      (hexponent : IsExponent exponent e) :
      IsLiteral (sign ++ (mantissa ++ exponent)) negative
        ((asciiNumber whole + asciiNumber fraction / 10 ^ fraction.length) * 10 ^ e)

/-- The point may be moved behind the fraction if the exponent makes up for it. -/
theorem size_mk (negative : Bool) (whole fraction : List Char) (e : Int) :
    size ⟨negative, asciiNumber (whole ++ fraction), e - fraction.length⟩ =
      (asciiNumber whole + asciiNumber fraction / 10 ^ fraction.length) * 10 ^ e := by
  have hten : (10 : Rat) ^ fraction.length ≠ 0 := pow_ne_zero _ (by norm_num)
  rw [size, asciiNumber_append, zpow_sub₀ (by norm_num), zpow_natCast]
  push_cast
  field_simp

/-- The reader takes the parts of a literal one after the other. -/
theorem read?_of_splits {cs rest exponent whole fraction : List Char} {negative : Bool}
    (hsign : splitSign cs = (negative, rest)) (hwhole : rest.takeWhile isAsciiDigit = whole)
    (hfraction : splitFraction (rest.dropWhile isAsciiDigit) = (fraction, exponent)) :
    read? cs = if whole = [] ∧ fraction = [] then none else
      (readExponent? exponent).map fun e =>
        ⟨negative, asciiNumber (whole ++ fraction), e - fraction.length⟩ := by
  simp only [read?, hsign, hwhole, hfraction]

theorem exists_fraction (cs : List Char) :
    ∃ fraction exponent, splitFraction cs = (fraction, exponent) ∧ AllDigits fraction ∧
      (cs = '.' :: (fraction ++ exponent) ∨ fraction = [] ∧ cs = exponent) := by
  unfold splitFraction
  split
  · rename_i tail
    exact ⟨_, _, rfl, allDigits_takeWhile tail,
      Or.inl (congrArg _ List.takeWhile_append_dropWhile.symm)⟩
  · exact ⟨[], cs, rfl, List.forall_mem_nil _, Or.inr ⟨rfl, rfl⟩⟩

theorem isLiteral_of_read? {cs : List Char} {d : Decimal} (h : read? cs = some d) :
    IsLiteral cs d.negative d.size := by
  obtain ⟨sign, negative, rest, hsplit, hsign, rfl⟩ := exists_sign cs
  obtain ⟨fraction, exponent, hfraction, hdigits, hrest⟩ :=
    exists_fraction (rest.dropWhile isAsciiDigit)
  have hwhole := allDigits_takeWhile rest
  have hjoin : rest.takeWhile isAsciiDigit ++ rest.dropWhile isAsciiDigit = rest :=
    List.takeWhile_append_dropWhile
  rw [read?_of_splits hsplit rfl hfraction] at h
  generalize rest.takeWhile isAsciiDigit = whole at *
  generalize rest.dropWhile isAsciiDigit = after at *
  split at h
  · cases h
  · rename_i hsome
    obtain ⟨e, he, rfl⟩ := Option.map_eq_some_iff.mp h
    have hexponent := readExponent?_eq_some_iff.mp he
    rw [size_mk, ← hjoin]
    rcases hrest with rfl | ⟨rfl, rfl⟩
    · have hmantissa := IsMantissa.pointed (not_and_or.mp hsome) hwhole hdigits
      have hliteral := IsLiteral.mk hsign hmantissa hexponent
      rwa [List.append_assoc, List.cons_append] at hliteral
    · have hne : whole ≠ [] := fun hno => hsome ⟨hno, rfl⟩
      exact .mk hsign (.whole hne hwhole) hexponent

/-- Digits and a fraction are found before an exponent. -/
theorem IsMantissa.splits {mantissa whole fraction exponent : List Char} {e : Int}
    (hmantissa : IsMantissa mantissa whole fraction) (hexponent : IsExponent exponent e) :
    (∀ c ∈ (mantissa ++ exponent).head?, c ≠ '-' ∧ c ≠ '+') ∧
      ¬ (whole = [] ∧ fraction = []) ∧
      (mantissa ++ exponent).takeWhile isAsciiDigit = whole ∧
      splitFraction ((mantissa ++ exponent).dropWhile isAsciiDigit) = (fraction, exponent) := by
  have hstop : StartsNoDigit exponent := fun c hc => by
    rcases hexponent.head_eq c hc with rfl | rfl <;> decide
  cases hmantissa with
  | whole hne hdigits =>
    rw [takeWhile_digits hdigits hstop, dropWhile_digits hdigits hstop]
    refine ⟨fun c hc => ?_, fun hempty => hne hempty.1, rfl, ?_⟩
    · rw [List.head?_append_of_ne_nil _ hne] at hc
      exact ne_sign_of_isAsciiDigit (hdigits c (List.mem_of_mem_head? hc))
    · cases hexponent with
      | absent => rfl
      | present hmark => rcases hmark with rfl | rfl <;> rfl
  | pointed hne hwhole hfraction =>
    have hpoint : StartsNoDigit ('.' :: fraction ++ exponent) := by
      intro c hc
      rw [← Option.some.inj hc]
      decide
    rw [List.append_assoc, takeWhile_digits hwhole hpoint, dropWhile_digits hwhole hpoint]
    refine ⟨fun c hc => ?_, not_and_or.mpr hne, rfl, ?_⟩
    · cases whole with
      | nil =>
        rw [← Option.some.inj hc]
        decide
      | cons d ds =>
        rw [← Option.some.inj hc]
        exact ne_sign_of_isAsciiDigit (hwhole d (List.mem_cons_self ..))
    · rw [List.cons_append, splitFraction, takeWhile_digits hfraction hstop,
        dropWhile_digits hfraction hstop]

theorem exists_read?_of_isLiteral {cs : List Char} {negative : Bool} {q : Rat}
    (h : IsLiteral cs negative q) :
    ∃ d, read? cs = some d ∧ d.negative = negative ∧ d.size = q := by
  obtain ⟨hsign, hmantissa, hexponent⟩ := h
  obtain ⟨hhead, hsome, hwhole, hfraction⟩ := hmantissa.splits hexponent
  refine ⟨_, ?_, rfl, size_mk ..⟩
  rw [read?_of_splits (splitSign_append hsign hhead) hwhole hfraction, if_neg hsome,
    readExponent?_eq_some_iff.mpr hexponent]
  rfl

end Decimal

end FilterPipeline
