/-!
Hexadecimal digits. They are read in capital or small letters and written in small ones.
-/

namespace FilterPipeline.Text

def hexDigit? (c : Char) : Option Nat :=
  if '0' ≤ c ∧ c ≤ '9' then some (c.toNat - '0'.toNat)
  else if 'a' ≤ c ∧ c ≤ 'f' then some (c.toNat - 'a'.toNat + 10)
  else if 'A' ≤ c ∧ c ≤ 'F' then some (c.toNat - 'A'.toNat + 10)
  else none

def hexChar (d : Nat) : Char :=
  if d < 10 then Char.ofNat ('0'.toNat + d) else Char.ofNat ('a'.toNat + (d - 10))

/-- The last `width` hexadecimal digits of a number, with leading zeros. -/
def paddedHex : Nat → Nat → List Char
  | 0, _ => []
  | width + 1, n => paddedHex width (n / 16) ++ [hexChar (n % 16)]

end FilterPipeline.Text
