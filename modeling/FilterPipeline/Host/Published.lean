import FilterPipeline.Calendar.Regions
import FilterPipeline.Host

/-!
A host to run on: zones of the published tables, identifiers of 24 hexadecimal digits, and the
reader of dates in common use.
-/

namespace FilterPipeline

open Text

namespace ObjectId

/-- Reads pairs of hexadecimal digits as bytes. -/
def readBytes? : List Char → Option (List (Fin 256))
  | [] => some []
  | [_] => none
  | high :: low :: rest => do
      let h ← hexDigit? high
      let l ← hexDigit? low
      let bytes ← readBytes? rest
      return Fin.ofNat 256 (16 * h + l) :: bytes

/-- The identifier that 24 hexadecimal digits spell. -/
def read? (cs : List Char) : Option ObjectId :=
  if cs.length = 24 then (readBytes? cs).map ObjectId.mk else none

end ObjectId

instance Host.published : Host where
  zone name := match Zone.regions.find? (·.name == name) with
    | some z => .ok z
    | none => .error .unknown
  isIdText cs := (ObjectId.read? cs).isSome
  idOfText? := ObjectId.read?
  keepsShortOffsets := false

end FilterPipeline
