import FilterPipeline.Calendar.Regions.Europe
import FilterPipeline.Calendar.Regions.America
import FilterPipeline.Calendar.Regions.Asia
import FilterPipeline.Calendar.Regions.Pacific

/-!
The zones of the tables.
-/

namespace FilterPipeline.Zone

def regions : List Zone := [
  berlin, newYork, tokyo, kolkata, kathmandu, saoPaulo, havana, apia, lordHowe, stJohns, chatham,
  beirut, dublin, kiritimati, gmtPlus12, est]

end FilterPipeline.Zone
