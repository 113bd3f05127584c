import FilterPipeline.Calendar.Zone
import FilterPipeline.ObjectId

/-!
What filters rely on and do not define themselves: the zones that a name can be looked up
under, the texts that are identifiers of documents, and the way in which dates are read where
more than one way is in use.
-/

namespace FilterPipeline

/-- Why a name gives no zone: there is none, or what is there cannot be read. -/
inductive ZoneFault where
  | unknown
  | unreadable
deriving DecidableEq, Repr

class Host where
  zone : String → Except ZoneFault Zone
  /-- Whether a text is that of an identifier. -/
  isIdText : List Char → Bool
  /-- The identifier made of a text, which is asked for apart from whether there is one. -/
  idOfText? : List Char → Option ObjectId
  /-- Whether an offset of less than a second is kept when a date is read. The format allows
  for such offsets, but the reader in common use takes them for none. -/
  keepsShortOffsets : Bool

end FilterPipeline
