import FilterPipeline.Decimal.Binary64

/-!
The decimal text of a binary number: the fewest significant digits that read back as
the same number, and of those the nearest to it. Numbers from `10 ^ -4` up to
`10 ^ 16` are written in places, with `.0` after a whole number; all others in
scientific notation with a signed exponent of at least two digits.
-/

namespace FilterPipeline

open Text

namespace Binary64

/-- A positive decimal number `coefficient · 10 ^ exponent`. -/
structure Digits where
  coefficient : Nat
  exponent : Int
deriving DecidableEq, Repr

/-- A magnitude as an exact quotient. -/
def quotient (magnitude : Nat) : Nat × Nat := (units magnitude, unitsOfOne)

/-- The decimal exponent `p` with `10 ^ p ≤ num / den < 10 ^ (p + 1)`. -/
def leadingPlace (num den : Nat) : Int :=
  if den ≤ num then ((decimal (num / den)).length : Int) - 1
  else -((decimal ((den + num - 1) / num - 1)).length : Int)

/-- A number and a place as an exact quotient. -/
def atPlace (n : Nat) (place : Int) : Nat × Nat :=
  if 0 ≤ place then (n * Nat.pow 10 place.toNat, 1) else (n, Nat.pow 10 (-place).toNat)

/-- Whether a decimal number is read as the given magnitude. -/
def readsAs (magnitude : Nat) (d : Digits) : Bool :=
  let (num, den) := atPlace d.coefficient d.exponent
  nearest num den == magnitude

/-- The decimal number with `count` significant digits that reads back as the given
magnitude, if there is one: one of the two neighbours on that decimal grid. If both of
them do it is the nearer one, and halfway between them the one with an even last digit. -/
def withDigits? (magnitude count : Nat) : Option Digits :=
  let (num, den) := quotient magnitude
  let place := leadingPlace num den - (count - 1)
  let (gridNum, gridDen) := atPlace 1 place
  let num := num * gridDen
  let den := den * gridNum
  let low : Digits := ⟨num / den, place⟩
  let high : Digits := ⟨num / den + 1, place⟩
  match readsAs magnitude low, readsAs magnitude high with
  | true, true => some ⟨roundQuotient num den, place⟩
  | true, false => some low
  | false, true => some high
  | false, false => none

/-- Seventeen digits always suffice. -/
def shortest? (magnitude : Nat) : Option Digits :=
  (List.range' 1 17).findSome? (withDigits? magnitude)

def dropTrailingZeros (cs : List Char) : List Char := (cs.reverse.dropWhile (· == '0')).reverse

/-- The digits of an exponent, at least two of them. -/
def exponentDigits (n : Nat) : List Char := if n < 10 then padded 2 n else decimal n

/-- Writes `0.d₁d₂… · 10 ^ point` in places or in scientific notation. -/
def layout (digits : List Char) (point : Int) : List Char :=
  if -4 < point ∧ point ≤ 16 then
    if point ≤ 0 then ['0', '.'] ++ List.replicate (-point).toNat '0' ++ digits
    else
      let whole := digits.take point.toNat
      let fraction := digits.drop point.toNat
      whole ++ List.replicate (point.toNat - whole.length) '0' ++ '.' ::
        (if fraction = [] then ['0'] else fraction)
  else
    let exponent := point - 1
    let fraction := digits.drop 1
    digits.take 1 ++ (if fraction = [] then [] else '.' :: fraction) ++ 'e' ::
      (if exponent < 0 then '-' else '+') :: exponentDigits exponent.natAbs

def magnitudeText (magnitude : Nat) : List Char :=
  if magnitude = 0 then ['0', '.', '0']
  else
    match shortest? magnitude with
    | none => []
    | some d =>
      let digits := decimal d.coefficient
      layout (dropTrailingZeros digits) (digits.length + d.exponent)

def text : Binary64 → List Char
  | .nan => ['n', 'a', 'n']
  | .infinite negative => (if negative then ['-'] else []) ++ ['i', 'n', 'f']
  | .finite negative magnitude => (if negative then ['-'] else []) ++ magnitudeText magnitude.val

end Binary64

end FilterPipeline
