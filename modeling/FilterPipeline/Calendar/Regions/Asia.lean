import FilterPipeline.Calendar.YearlyRule

/-!
Zones of Asia, from the 2026 edition of the time zone tables.
-/

namespace FilterPipeline.Zone

def tokyo : Zone :=
  .ofTable "Asia/Tokyo" [33539, 32400, 36000] [
    (59547884400, 1), (61451794800, 2), (61463286000, 1), (61480825200, 2), (61494735600, 1),
    (61515298800, 2), (61526185200, 1), (61546748400, 2), (61557634800, 1)]
    .constant

def kolkata : Zone :=
  .ofTable "Asia/Kolkata" [21208, 21200, 19270, 19800, 23400] [
    (58490359592, 1), (58979902000, 2), (60115891130, 3), (61244015400, 4), (61263538200, 3),
    (61272959400, 4), (61371451800, 3)]
    .constant

def kathmandu : Zone :=
  .ofTable "Asia/Kathmandu" [20476, 19800, 20700] [
    (60557653124, 1), (62640498600, 2)]
    .constant

def beirut : Zone :=
  .ofTable "Asia/Beirut" [8520, 7200, 10800] [
    (59295447480, 1), (60565183200, 2), (60583410000, 1), (60597237600, 2), (60613045200, 1),
    (60628082400, 2), (60645013200, 1), (60661951200, 2), (60674648400, 1), (61735730400, 2),
    (61748946000, 1), (61767266400, 2), (61780482000, 1), (61798802400, 2), (61812018000, 1),
    (61830424800, 2), (61843640400, 1), (61861960800, 2), (61875176400, 1), (62213608800, 2),
    (62222331600, 1), (62240652000, 2), (62253867600, 1), (62272188000, 2), (62285403600, 1),
    (62303724000, 2), (62316939600, 1), (62335346400, 2), (62348562000, 1), (62366882400, 2),
    (62380098000, 1), (62398332000, 2), (62411547600, 1), (62587807200, 2), (62602318800, 1),
    (62619343200, 2), (62633854800, 1), (62650879200, 2), (62665390800, 1), (62682415200, 2),
    (62696926800, 1), (62716716000, 2), (62728549200, 1), (62746351200, 2), (62760085200, 1),
    (62777109600, 2), (62791621200, 1), (62808645600, 2), (62823157200, 1), (62840268000, 2),
    (62853742800, 1), (62868866400, 2), (62884587600, 1), (62900316000, 2), (62916037200, 1),
    (62931765600, 2), (62947486800, 1), (62963820000, 2), (62979541200, 1), (62995269600, 2),
    (63010990800, 1), (63026719200, 2), (63042440400, 1), (63058168800, 2)]
    (.yearly 63058168800 1999 ⟨7200, 10800, ⟨3, 5, 0, 0⟩, ⟨10, 5, 0, 0⟩⟩)

end FilterPipeline.Zone
