import FilterPipeline.Calendar.YearlyRule

/-!
Zones of Europe, from the 2026 edition of the time zone tables.
-/

namespace FilterPipeline.Zone

def berlin : Zone :=
  .ofTable "Europe/Berlin" [3208, 3600, 7200, 10800] [
    (59713542392, 1), (60441890400, 2), (60455113200, 1), (60472141200, 2), (60485446800, 1),
    (60503590800, 2), (60516896400, 1), (61196691600, 2), (61278339600, 1), (61291040400, 2),
    (61307370000, 1), (61323094800, 2), (61338819600, 1), (61354544400, 2), (61359033600, 3),
    (61369660800, 2), (61374416400, 1), (61387117200, 2), (61402323600, 1), (61417965600, 2),
    (61420986000, 3), (61425216000, 2), (61433686800, 1), (61450621200, 2), (61465136400, 1),
    (61481466000, 2), (61496586000, 1), (62459427600, 2), (62474547600, 1), (62490272400, 2),
    (62505997200, 1), (62521722000, 2), (62537446800, 1), (62553171600, 2), (62568896400, 1),
    (62584621200, 2), (62600950800, 1), (62616675600, 2), (62632400400, 1), (62648125200, 2),
    (62663850000, 1), (62679574800, 2), (62695299600, 1), (62711024400, 2), (62726749200, 1),
    (62742474000, 2), (62758198800, 1), (62773923600, 2), (62790253200, 1), (62805978000, 2),
    (62821702800, 1), (62837427600, 2), (62853152400, 1), (62868877200, 2), (62884602000, 1),
    (62900326800, 2), (62916051600, 1), (62931776400, 2), (62947501200, 1), (62963830800, 2)]
    (.yearly 62963830800 1996 ⟨3600, 7200, ⟨3, 5, 0, 7200⟩, ⟨10, 5, 0, 10800⟩⟩)

def dublin : Zone :=
  .ofTable "Europe/Dublin" [-1521, 2079, 0, 3600] [
    (60443634321, 1), (60455125521, 2), (60471453600, 3), (60485450400, 2), (60501693600, 3),
    (60518109600, 2), (60533748000, 3), (60549559200, 2), (60565197600, 3), (60583428000, 2),
    (60597252000, 3), (60613063200, 2), (60628096800, 3), (60645031200, 2), (60661965600, 3),
    (60674666400, 2), (60692810400, 3), (60706720800, 2), (60724864800, 3), (60738170400, 2),
    (60756314400, 3), (60770829600, 2), (60787159200, 3), (60802279200, 2), (60819818400, 3),
    (60834333600, 2), (60851268000, 3), (60865783200, 2), (60882112800, 3), (60897232800, 2),
    (60914167200, 3), (60928682400, 2), (60945616800, 3), (60960132000, 2), (60976461600, 3),
    (60992186400, 2), (61009120800, 3), (61023636000, 2), (61039965600, 3), (61055085600, 2),
    (61072020000, 3), (61086535200, 2), (61103469600, 3), (61117984800, 2), (61134314400, 3),
    (61149434400, 2), (61166368800, 3), (61185117600, 2), (61193584800, 3), (61402240800, 2),
    (61416151200, 3), (61436109600, 2), (61450624800, 3), (61467559200, 2), (61480864800, 3),
    (61499008800, 2), (61513524000, 3), (61529853600, 2), (61544973600, 3), (61561303200, 2),
    (61577028000, 3), (61593357600, 2), (61608477600, 3), (61622992800, 2), (61639322400, 3),
    (61654442400, 2), (61671376800, 3), (61685892000, 2), (61703431200, 3), (61717946400, 2),
    (61734276000, 3), (61749396000, 2), (61766330400, 3), (61780845600, 2), (61797780000, 3),
    (61812295200, 2), (61828624800, 3), (61843744800, 2), (61858864800, 3), (61877613600, 2),
    (61890314400, 3), (61909063200, 2), (61922368800, 3), (61940512800, 2), (61953213600, 3),
    (61971962400, 2), (61984663200, 3), (62003412000, 2), (62016112800, 3), (62034861600, 2),
    (62047562400, 3), (62066916000, 2), (62076592800, 3), (62193319200, 2), (62205415200, 3),
    (62224768800, 2), (62236864800, 3), (62256218400, 2), (62268314400, 3), (62287668000, 2),
    (62299764000, 3), (62319117600, 2), (62331818400, 3), (62350567200, 2), (62363268000, 3),
    (62382016800, 2), (62394717600, 3), (62414071200, 2), (62426167200, 3), (62445520800, 2),
    (62457616800, 3), (62476970400, 2), (62490272400, 3), (62508416400, 2), (62521722000, 3),
    (62539866000, 2), (62553171600, 3), (62571315600, 2), (62584621200, 3), (62603370000, 2),
    (62616675600, 3), (62634819600, 2), (62648125200, 3), (62666269200, 2), (62679574800, 3),
    (62697718800, 2), (62711024400, 3), (62729168400, 2), (62742474000, 3), (62761222800, 2),
    (62773923600, 3), (62792672400, 2), (62805978000, 3), (62824122000, 2), (62837427600, 3),
    (62855571600, 2), (62868877200, 3), (62887021200, 2), (62900326800, 3), (62918470800, 2),
    (62931776400, 3), (62949920400, 2), (62963830800, 3)]
    (.yearly 62963830800 1996 ⟨3600, 0, ⟨10, 5, 0, 7200⟩, ⟨3, 5, 0, 3600⟩⟩)

end FilterPipeline.Zone
