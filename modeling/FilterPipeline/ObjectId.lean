import FilterPipeline.Text.Hex

/-!
Document identifiers: bytes, usually twelve of them, written as hexadecimal digits. Which
texts are identifiers is not said here.
-/

namespace FilterPipeline

open Text

structure ObjectId where
  bytes : List (Fin 256)
deriving DecidableEq, Repr

/-- The digits are in small letters, so that identifiers are equal exactly if their texts
are. -/
def ObjectId.text (id : ObjectId) : List Char := id.bytes.flatMap fun b => paddedHex 2 b.val

end FilterPipeline
