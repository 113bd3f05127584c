import FilterPipeline.Text.Blank
import FilterPipeline.Value

/-!
Numbers that a filter value stands for. A stored integer has 64 bits; a whole number
that does not fit becomes the nearest binary floating point number, and what has no
finite such number is no number at all. Texts have to be plain decimal literals.
-/

namespace FilterPipeline

inductive Number where
  | integer (n : Int)
  | binary (x : Binary64)
deriving DecidableEq, Repr

namespace Number

def toValue : Number → Value
  | .integer n => .int n
  | .binary x => .float x

def ofInt? (n : Int) : Option Number :=
  if -0x8000000000000000 ≤ n ∧ n < 0x8000000000000000 then some (.integer n)
  else (Binary64.ofInt? n).map .binary

def ofBinary? (x : Binary64) : Option Number := if x.isFinite then some (.binary x) else none

/-- An integer literal of bounded length, or else a decimal literal. -/
def ofText? (cs : List Char) : Option Number :=
  match Decimal.integerDigits? cs with
  | some (negative, digits) =>
      if digits.length ≤ maxIntegerDigits then
        ofInt? (Decimal.signed negative (Text.asciiNumber digits))
      else none
  | none => ((Decimal.read? cs).bind Binary64.ofDecimal?).map .binary

end Number

/-- Truth values count as zero and one; texts may have white space around them. -/
def Value.toNumber? : Value → Option Number
  | .bool b => some (.integer (if b then 1 else 0))
  | .int n => Number.ofInt? n
  | .float x => Number.ofBinary? x
  | .text s => Number.ofText? (Text.strip s.toList)
  | _ => none

end FilterPipeline
