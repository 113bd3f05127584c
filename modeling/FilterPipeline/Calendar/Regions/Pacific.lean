import FilterPipeline.Calendar.YearlyRule

/-!
Zones of the Pacific, from the 2026 edition of the time zone tables.
-/

namespace FilterPipeline.Zone

def apia : Zone :=
  .ofTable "Pacific/Apia" [45184, -41216, -41400, -39600, -36000, 50400, 46800] [
    (59690172416, 1), (60273718016, 2), (61504486200, 3), (63421095600, 4), (63437349600, 3),
    (63452469600, 4), (63460836000, 5), (63468799200, 6), (63484524000, 5), (63500853600, 6),
    (63515973600, 5), (63532303200, 6), (63547423200, 5), (63563752800, 6), (63578872800, 5),
    (63595202400, 6), (63610322400, 5), (63626652000, 6), (63641772000, 5), (63658101600, 6),
    (63673826400, 5), (63690156000, 6), (63705276000, 5), (63721605600, 6), (63736725600, 5),
    (63753055200, 6)]
    .constant

def lordHowe : Zone :=
  .ofTable "Australia/Lord_Howe" [38180, 36000, 37800, 41400, 39600] [
    (59771481820, 1), (62487813600, 2), (62508382200, 3), (62519869800, 2), (62540436600, 3),
    (62551319400, 2), (62571886200, 3), (62582769000, 2), (62603335800, 3), (62614218600, 2),
    (62634785400, 4), (62646879600, 2), (62665630200, 4), (62678329200, 2), (62697684600, 4),
    (62710383600, 2), (62729739000, 4), (62741833200, 2), (62761188600, 4), (62772073200, 2),
    (62792638200, 4), (62803522800, 2), (62824087800, 4), (62834972400, 2), (62855537400, 4),
    (62867026800, 2), (62887591800, 4), (62898476400, 2), (62919041400, 4), (62929926000, 2),
    (62950491000, 4), (62963794800, 2), (62981940600, 4), (62995244400, 2), (63013390200, 4),
    (63026694000, 2), (63044839800, 4), (63058143600, 2), (63076894200, 4), (63089593200, 2),
    (63102900600, 4), (63121042800, 2), (63139793400, 4), (63153097200, 2), (63171243000, 4),
    (63184546800, 2), (63202692600, 4), (63215996400, 2), (63234747000, 4), (63247446000, 2),
    (63266196600, 4), (63279500400, 2), (63297646200, 4), (63310345200, 2), (63329095800, 4),
    (63343004400, 2)]
    (.yearly 63343004400 2008 ⟨37800, 39600, ⟨10, 1, 0, 7200⟩, ⟨4, 1, 0, 7200⟩⟩)

def chatham : Zone :=
  .ofTable "Pacific/Chatham" [44028, 44100, 45900, 49500] [
    (58943159172, 1), (61378170300, 2), (62288229600, 3), (62297906400, 2), (62319074400, 3),
    (62330565600, 2), (62351128800, 3), (62362015200, 2), (62382578400, 3), (62393464800, 2),
    (62414028000, 3), (62424914400, 2), (62445477600, 3), (62456364000, 2), (62476927200, 3),
    (62487813600, 2), (62508376800, 3), (62519868000, 2), (62540431200, 3), (62551317600, 2),
    (62571880800, 3), (62582767200, 2), (62603330400, 3), (62614216800, 2), (62634780000, 3),
    (62645666400, 2), (62666229600, 3), (62677116000, 2), (62697679200, 3), (62709170400, 2),
    (62729733600, 3), (62740620000, 2), (62759368800, 3), (62773279200, 2), (62790818400, 3),
    (62804728800, 2), (62822268000, 3), (62836178400, 2), (62853717600, 3), (62868232800, 2),
    (62885167200, 3), (62899682400, 2), (62916616800, 3), (62931132000, 2), (62948066400, 3),
    (62962581600, 2), (62980120800, 3), (62994031200, 2), (63011570400, 3), (63025480800, 2),
    (63043020000, 3), (63057535200, 2), (63074469600, 3), (63088984800, 2), (63105919200, 3),
    (63120434400, 2), (63137973600, 3), (63151884000, 2), (63169423200, 3), (63183333600, 2),
    (63200872800, 3), (63215388000, 2), (63232322400, 3), (63246837600, 2), (63263772000, 3),
    (63278287200, 2), (63295221600, 3), (63309736800, 2), (63326671200, 3)]
    (.yearly 63326671200 2007 ⟨45900, 49500, ⟨9, 5, 0, 9900⟩, ⟨4, 1, 0, 13500⟩⟩)

def kiritimati : Zone :=
  .ofTable "Pacific/Kiritimati" [-37760, -38400, -36000, 50400] [
    (59958181760, 1), (62443219200, 2), (62924464800, 3)]
    .constant

def gmtPlus12 : Zone := .ofTable "Etc/GMT+12" [-43200] [] .constant

end FilterPipeline.Zone
