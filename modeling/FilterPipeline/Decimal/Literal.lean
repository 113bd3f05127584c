import FilterPipeline.Text.Digit

/-!
Decimal literals: a sign, digits with at most one point among or around them, and an
exponent. Only ASCII digits count, and nothing may stand between them. A literal
denotes the exact number `± coefficient · 10 ^ exponent`.
-/

namespace FilterPipeline

open Text

structure Decimal where
  negative : Bool
  coefficient : Nat
  exponent : Int
deriving DecidableEq, Repr

namespace Decimal

/-- A leading sign, read as "is negative", and what follows it. -/
def splitSign : List Char → Bool × List Char
  | '-' :: cs => (true, cs)
  | '+' :: cs => (false, cs)
  | cs => (false, cs)

/-- The digits of an integer literal: an optional sign and one or more digits. -/
def integerDigits? (cs : List Char) : Option (Bool × List Char) :=
  let (negative, digits) := splitSign cs
  if digits ≠ [] ∧ digits.all isAsciiDigit then some (negative, digits) else none

def signed (negative : Bool) (n : Nat) : Int := if negative then -(n : Int) else n

/-- The exponent part of a literal; an absent one is zero. -/
def readExponent? : List Char → Option Int
  | [] => some 0
  | c :: cs =>
      if c = 'e' ∨ c = 'E' then
        (integerDigits? cs).map fun (negative, digits) => signed negative (asciiNumber digits)
      else none

/-- The digits after the point, when there is a point, and what follows. -/
def splitFraction : List Char → List Char × List Char
  | '.' :: cs => (cs.takeWhile isAsciiDigit, cs.dropWhile isAsciiDigit)
  | cs => ([], cs)

/-- Reads a whole text as a decimal literal. -/
def read? (cs : List Char) : Option Decimal :=
  let (negative, cs) := splitSign cs
  let whole := cs.takeWhile isAsciiDigit
  let (fraction, rest) := splitFraction (cs.dropWhile isAsciiDigit)
  if whole = [] ∧ fraction = [] then none
  else
    (readExponent? rest).map fun e =>
      ⟨negative, asciiNumber (whole ++ fraction), e - fraction.length⟩

end Decimal

end FilterPipeline
