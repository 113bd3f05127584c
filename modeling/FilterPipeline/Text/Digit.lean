/-!
Decimal digits and the numbers they spell. A digit of any script has the value
of its place in a run of ten consecutive code points that starts at a zero; the
table lists the zeros. ASCII digits have readers of their own, because most
formats admit no others.
-/

namespace FilterPipeline.Text

/-- The zeros of all scripts that write numbers in decimal places. -/
def zeros : List Nat := [
  0x30, 0x660, 0x6f0, 0x7c0, 0x966, 0x9e6, 0xa66, 0xae6, 0xb66, 0xbe6, 0xc66, 0xce6, 0xd66,
  0xde6, 0xe50, 0xed0, 0xf20, 0x1040, 0x1090, 0x17e0, 0x1810, 0x1946, 0x19d0, 0x1a80, 0x1a90,
  0x1b50, 0x1bb0, 0x1c40, 0x1c50, 0xa620, 0xa8d0, 0xa900, 0xa9d0, 0xa9f0, 0xaa50, 0xabf0, 0xff10,
  0x104a0, 0x10d30, 0x11066, 0x110f0, 0x11136, 0x111d0, 0x112f0, 0x11450, 0x114d0, 0x11650,
  0x116c0, 0x11730, 0x118e0, 0x11950, 0x11c50, 0x11d50, 0x11da0, 0x16a60, 0x16ac0, 0x16b50,
  0x1d7ce, 0x1d7d8, 0x1d7e2, 0x1d7ec, 0x1d7f6, 0x1e140, 0x1e2f0, 0x1e950, 0x1fbf0]

def isAsciiDigit (c : Char) : Bool := '0' ≤ c ∧ c ≤ '9'

/-- The distance of a character from the ASCII zero: the value of an ASCII digit. -/
def asciiDigitValue (c : Char) : Nat := c.toNat - '0'.toNat

def digitFrom? (c : Char) : List Nat → Option Nat
  | [] => none
  | start :: rest =>
      if start ≤ c.toNat ∧ c.toNat < start + 10 then some (c.toNat - start) else digitFrom? c rest

/-- The value of a decimal digit of any script. -/
def digit? (c : Char) : Option Nat := digitFrom? c zeros

/-- The number whose decimal digits are given, the most significant first. -/
def ofDigits (digits : List Nat) : Nat := digits.foldl (fun n d => 10 * n + d) 0

/-- The number spelled by ASCII digits. -/
def asciiNumber (cs : List Char) : Nat := ofDigits (cs.map asciiDigitValue)

/-- The number spelled by the decimal digits of a text; other characters are passed over. -/
def spelledNumber (cs : List Char) : Nat := ofDigits (cs.filterMap digit?)

def digitChar (d : Nat) : Char := Char.ofNat ('0'.toNat + d % 10)

/-- The last `width` decimal digits of a number, with leading zeros. -/
def padded : Nat → Nat → List Char
  | 0, _ => []
  | width + 1, n => padded width (n / 10) ++ [digitChar n]

/-- The decimal digits of a number, without leading zeros. -/
def decimal (n : Nat) : List Char := Nat.toDigits 10 n

/-- Exactly `count` ASCII digits at the front of a text, and what follows them. -/
def takeDigits? : Nat → List Char → Option (List Char × List Char)
  | 0, cs => some ([], cs)
  | _ + 1, [] => none
  | count + 1, c :: cs =>
      if isAsciiDigit c then (takeDigits? count cs).map fun (ds, rest) => (c :: ds, rest) else none

/-- The number spelled by exactly `count` ASCII digits at the front of a text. -/
def takeNumber? (count : Nat) (cs : List Char) : Option (Nat × List Char) :=
  (takeDigits? count cs).map fun (ds, rest) => (asciiNumber ds, rest)

end FilterPipeline.Text
