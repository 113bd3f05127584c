import FilterPipeline.Decimal.Literal

/-!
Binary floating point numbers of 64 bits. The magnitudes of the finite ones are
numbered from zero upwards; the number of a magnitude is also its bit pattern, so
that encoding is immediate and rounding means finding the number of the nearest
magnitude. All arithmetic is on natural numbers and exact.
-/

namespace FilterPipeline

/-- How many finite magnitudes there are: the bit pattern of infinity. -/
def magnitudeCount : Nat := 0x7ff0000000000000

/-- How many magnitudes make up a binade, within which their steps are equal. -/
def binadeSize : Nat := 0x10000000000000

/-- The weight of the sign in a bit pattern. -/
def signWeight : Nat := 0x8000000000000000

inductive Binary64 where
  | nan
  | infinite (negative : Bool)
  | finite (negative : Bool) (magnitude : Fin magnitudeCount)
deriving DecidableEq, Repr

namespace Binary64

def zero (negative : Bool) : Binary64 := .finite negative ⟨0, by decide⟩

def isFinite : Binary64 → Bool
  | .finite _ _ => true
  | _ => false

def isZero : Binary64 → Bool
  | .finite _ magnitude => magnitude.val == 0
  | _ => false

/-- The bit pattern; every number that is not one has the same. -/
def bits : Binary64 → Nat
  | .nan => 0x7ff8000000000000
  | .infinite negative => (if negative then signWeight else 0) + magnitudeCount
  | .finite negative magnitude => (if negative then signWeight else 0) + magnitude.val

/-- The smallest magnitude above zero is the unit in which the others are counted; this
is the number of them in one. -/
def unitsOfOne : Nat := Nat.pow 2 1074

/-- A magnitude in units: the first binade holds the subnormal numbers, and each binade
after the second doubles the step. -/
def units (magnitude : Nat) : Nat :=
  if magnitude < binadeSize then magnitude
  else (binadeSize + magnitude % binadeSize) * Nat.pow 2 (magnitude / binadeSize - 1)

/-- A finite number in units. -/
def signedUnits? : Binary64 → Option Int
  | .finite negative magnitude =>
      some (if negative then -(units magnitude : Int) else units magnitude)
  | _ => none

/-- The integer nearest to a quotient; halves go to the even neighbour. -/
def roundQuotient (num den : Nat) : Nat :=
  let q := num / den
  let twice := 2 * (num % den)
  if twice < den then q else if den < twice then q + 1 else q + q % 2

/-- The number of the magnitude nearest to `num / den`, when the numbering is
continued past the finite ones. The step at the quotient is chosen so that it has
53 binary places, or fewer below the first full binade. -/
def nearest (num den : Nat) : Nat :=
  let scaled := num * unitsOfOne
  let binade := Nat.log2 (scaled / den) + 1 - 53
  binade * binadeSize + roundQuotient scaled (den * Nat.pow 2 binade)

/-- The finite number nearest to `± num / den`, unless that would be infinite. -/
def ofQuotient? (negative : Bool) (num den : Nat) : Option Binary64 :=
  if h : nearest num den < magnitudeCount then some (.finite negative ⟨nearest num den, h⟩)
  else none

def ofInt? (n : Int) : Option Binary64 := ofQuotient? (n < 0) n.natAbs 1

/-- The finite number nearest to a decimal one. A non-zero decimal number whose
exponent is 400 or more lies beyond all of them, and one that lies below `10 ^ -400`
is nearest to zero, so that powers of ten stay small. -/
def ofDecimal? (d : Decimal) : Option Binary64 :=
  if d.coefficient = 0 then some (zero d.negative)
  else if 400 ≤ d.exponent then none
  else if d.exponent + (Nat.log2 d.coefficient + 1) ≤ -400 then some (zero d.negative)
  else if 0 ≤ d.exponent then
    ofQuotient? d.negative (d.coefficient * Nat.pow 10 d.exponent.toNat) 1
  else ofQuotient? d.negative d.coefficient (Nat.pow 10 (-d.exponent).toNat)

end Binary64

end FilterPipeline
