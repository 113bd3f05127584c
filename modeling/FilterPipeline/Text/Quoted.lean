import FilterPipeline.Text.Hex
import FilterPipeline.Text.Printable

/-!
Quoted text. A text stands between single quotes, or between double quotes when it
holds a single quote and no double one. A backslash introduces the quote itself, the
backslash, the usual line controls and, by their code points, the characters that
have no shape.
-/

namespace FilterPipeline.Text

/-- The mark that a text is quoted with. -/
def quoteMark (cs : List Char) : Char :=
  if cs.contains '\'' && !cs.contains '"' then '"' else '\''

def quoteChar (mark c : Char) : List Char :=
  if c = mark ∨ c = '\\' then ['\\', c]
  else if c = '\t' then ['\\', 't']
  else if c = '\n' then ['\\', 'n']
  else if c = '\r' then ['\\', 'r']
  else if isPrintable c then [c]
  else if c.toNat < 0x100 then '\\' :: 'x' :: paddedHex 2 c.toNat
  else if c.toNat < 0x10000 then '\\' :: 'u' :: paddedHex 4 c.toNat
  else '\\' :: 'U' :: paddedHex 8 c.toNat

def quote (cs : List Char) : List Char :=
  let mark := quoteMark cs
  mark :: cs.flatMap (quoteChar mark) ++ [mark]

end FilterPipeline.Text
