import FilterPipeline.Calendar.YearlyRule

/-!
Zones of the Americas, from the 2026 edition of the time zone tables.
-/

namespace FilterPipeline.Zone

def newYork : Zone :=
  .ofTable "America/New_York" [-17762, -18000, -14400] [
    (59417946000, 1), (60502316400, 2), (60520456800, 1), (60533766000, 2), (60551906400, 1),
    (60565215600, 2), (60583960800, 1), (60599084400, 2), (60612386400, 1), (60631138800, 2),
    (60643836000, 1), (60662588400, 2), (60675890400, 1), (60694038000, 2), (60707340000, 1),
    (60725487600, 2), (60738789600, 1), (60756937200, 2), (60770239200, 1), (60788386800, 2),
    (60801688800, 1), (60820441200, 2), (60833743200, 1), (60851890800, 2), (60865192800, 1),
    (60883340400, 2), (60896642400, 1), (60914790000, 2), (60928092000, 1), (60946239600, 2),
    (60959541600, 1), (60978294000, 2), (60990991200, 1), (61009743600, 2), (61023045600, 1),
    (61041193200, 2), (61054495200, 1), (61072642800, 2), (61085944800, 1), (61104092400, 2),
    (61117394400, 1), (61135542000, 2), (61148844000, 1), (61167596400, 2), (61180293600, 1),
    (61199046000, 2), (61212348000, 1), (61230495600, 2), (61243797600, 1), (61255378800, 2),
    (61370200800, 1), (61388348400, 2), (61401650400, 1), (61419798000, 2), (61433100000, 1),
    (61451247600, 2), (61464549600, 1), (61482697200, 2), (61495999200, 1), (61514751600, 2),
    (61527448800, 1), (61546201200, 2), (61559503200, 1), (61577650800, 2), (61590952800, 1),
    (61609100400, 2), (61622402400, 1), (61640550000, 2), (61653852000, 1), (61671999600, 2),
    (61688325600, 1), (61704054000, 2), (61719775200, 1), (61735503600, 2), (61751224800, 1),
    (61766953200, 2), (61782674400, 1), (61798402800, 2), (61814124000, 1), (61829852400, 2),
    (61846178400, 1), (61861906800, 2), (61877628000, 1), (61893356400, 2), (61909077600, 1),
    (61924806000, 2), (61940527200, 1), (61956255600, 2), (61971976800, 1), (61987705200, 2),
    (62004031200, 1), (62019154800, 2), (62035480800, 1), (62051209200, 2), (62066930400, 1),
    (62082658800, 2), (62098380000, 1), (62114108400, 2), (62129829600, 1), (62145558000, 2),
    (62161279200, 1), (62177007600, 2), (62193333600, 1), (62209062000, 2), (62224783200, 1),
    (62240511600, 2), (62256232800, 1), (62262284400, 2), (62287682400, 1), (62297967600, 2),
    (62319132000, 1), (62334860400, 2), (62351186400, 1), (62366310000, 2), (62382636000, 1),
    (62398364400, 2), (62414085600, 1), (62429814000, 2), (62445535200, 1), (62461263600, 2),
    (62476984800, 1), (62492713200, 2), (62508434400, 1), (62524162800, 2), (62540488800, 1),
    (62555612400, 2), (62571938400, 1), (62587666800, 2), (62603388000, 1), (62619116400, 2),
    (62634837600, 1), (62650566000, 2), (62666287200, 1), (62680201200, 2), (62697736800, 1),
    (62711650800, 2), (62729791200, 1), (62743100400, 2), (62761240800, 1), (62774550000, 2),
    (62792690400, 1), (62806604400, 2), (62824140000, 1), (62838054000, 2), (62855589600, 1),
    (62869503600, 2), (62887644000, 1), (62900953200, 2), (62919093600, 1), (62932402800, 2),
    (62950543200, 1), (62964457200, 2), (62981992800, 1), (62995906800, 2), (63013442400, 1),
    (63027356400, 2), (63044892000, 1), (63058806000, 2), (63076946400, 1), (63090255600, 2),
    (63108396000, 1), (63121705200, 2), (63139845600, 1), (63153759600, 2), (63171295200, 1),
    (63185209200, 2), (63202744800, 1), (63216658800, 2), (63234799200, 1), (63248108400, 2),
    (63266248800, 1), (63279558000, 2), (63297698400, 1), (63309193200, 2)]
    (.yearly 63309193200 2007 ⟨-18000, -14400, ⟨3, 2, 0, 7200⟩, ⟨11, 1, 0, 7200⟩⟩)

def saoPaulo : Zone :=
  .ofTable "America/Sao_Paulo" [-11188, -10800, -7200] [
    (60368382388, 1), (60928639200, 2), (60944234400, 1), (60960222000, 2), (60975770400, 1),
    (61501777200, 2), (61513527600, 1), (61533313200, 2), (61543764000, 1), (61564849200, 2),
    (61575386400, 1), (61596471600, 2), (61604244000, 1), (61940170800, 2), (61951399200, 1),
    (61980433200, 2), (61985613600, 1), (62006698800, 2), (62014474800, 1), (62035642800, 2),
    (62046007200, 1), (62067178800, 2), (62077629600, 1), (62635345200, 2), (62646832800, 1),
    (62666190000, 2), (62675863200, 1), (62697726000, 2), (62706794400, 1), (62728570800, 2),
    (62737639200, 1), (62760020400, 2), (62770298400, 1), (62792074800, 2), (62802352800, 1),
    (62823524400, 2), (62833197600, 1), (62855578800, 2), (62864042400, 1), (62886423600, 2),
    (62897306400, 1), (62917873200, 2), (62928756000, 1), (62949322800, 2), (62959600800, 1),
    (62980167600, 2), (62991655200, 1), (63011703600, 2), (63024314400, 1), (63043671600, 2),
    (63055159200, 1), (63074516400, 2), (63087213600, 1), (63106570800, 2), (63118058400, 1),
    (63138625200, 2), (63149508000, 1), (63171889200, 2), (63180957600, 1), (63202129200, 2),
    (63212407200, 1), (63234961200, 2), (63244461600, 1), (63265028400, 2), (63275911200, 1),
    (63298292400, 2), (63307965600, 1), (63327927600, 2), (63338810400, 1), (63359982000, 2),
    (63370260000, 1), (63391431600, 2), (63402314400, 1), (63422881200, 2), (63433764000, 1),
    (63454330800, 2), (63465818400, 1), (63486385200, 2), (63496663200, 1), (63517834800, 2),
    (63528112800, 1), (63549284400, 2), (63560167200, 1), (63580734000, 2), (63591616800, 1),
    (63612183600, 2), (63623066400, 1), (63643633200, 2), (63654516000, 1), (63676897200, 2),
    (63685965600, 1)]
    .constant

def havana : Zone :=
  .ofTable "America/Havana" [-19768, -19776, -18000, -14400] [
    (59611094968, 1), (60732782976, 2), (60824062800, 3), (60834600000, 2), (61202062800, 3),
    (61209921600, 2), (61233512400, 3), (61241976000, 2), (61265566800, 3), (61273425600, 2),
    (61359915600, 3), (61367774400, 2), (61391365200, 3), (61399224000, 2), (61990894800, 3),
    (62001345600, 2), (62022171600, 3), (62033054400, 2), (62049301200, 3), (62062689600, 2),
    (62081442000, 3), (62094139200, 2), (62114101200, 3), (62129822400, 2), (62145550800, 3),
    (62161272000, 2), (62177000400, 3), (62193326400, 2), (62209054800, 3), (62222961600, 2),
    (62240504400, 3), (62254497600, 2), (62271954000, 3), (62286033600, 2), (62303403600, 3),
    (62319124800, 2), (62334853200, 3), (62351179200, 2), (62366302800, 3), (62382628800, 2),
    (62398962000, 3), (62412264000, 2), (62426178000, 3), (62444318400, 2), (62457627600, 3),
    (62475768000, 2), (62493915600, 3), (62507217600, 2), (62525365200, 3), (62538667200, 2),
    (62556814800, 3), (62570116800, 2), (62588264400, 3), (62602171200, 2), (62619714000, 3),
    (62633620800, 2), (62646930000, 3), (62665070400, 2), (62678379600, 3), (62696520000, 2),
    (62710434000, 3), (62727969600, 2), (62741883600, 3), (62759419200, 2), (62774542800, 3),
    (62791473600, 2), (62806597200, 3), (62822926800, 2), (62838046800, 3), (62854376400, 2),
    (62869496400, 3), (62885826000, 2), (62900946000, 3), (62917275600, 2), (62932395600, 3),
    (62948725200, 2), (62964450000, 3), (62980174800, 2), (62995899600, 3), (63012229200, 2),
    (63026744400, 3), (63044888400, 2), (63058194000, 3), (63076942800, 2), (63090248400, 3),
    (63108392400, 2), (63121698000, 3), (63139842000, 2), (63153752400, 3), (63171291600, 2),
    (63185202000, 3), (63202741200, 2), (63216046800, 3), (63297694800, 2), (63309186000, 3),
    (63329144400, 2), (63341240400, 3), (63360594000, 2), (63372085200, 3), (63392043600, 2),
    (63404139600, 3), (63424098000, 2), (63436194000, 3), (63456757200, 2), (63468853200, 3),
    (63487602000, 2), (63498488400, 3), (63519051600, 2), (63529938000, 3), (63550501200, 2),
    (63561387600, 3), (63581950800, 2), (63593442000, 3), (63614005200, 2), (63624891600, 3),
    (63645454800, 2), (63656341200, 3), (63676904400, 2), (63687790800, 3), (63708354000, 2),
    (63719240400, 3), (63739803600, 2), (63751294800, 3), (63771858000, 2), (63782744400, 3),
    (63803307600, 2), (63814194000, 3), (63834757200, 2), (63845643600, 3), (63866206800, 2),
    (63877093200, 3), (63897656400, 2), (63908542800, 3), (63961160400, 2)]
    (.yearly 63961160400 2027 ⟨-18000, -14400, ⟨3, 2, 0, 0⟩, ⟨11, 1, 0, 3600⟩⟩)

def stJohns : Zone :=
  .ofTable "America/St_Johns" [-12652, -9052, -12600, -9000, -5400] [
    (60471466252, 1), (60485459452, 0), (60503520652, 1), (60520451452, 0), (60536946652, 1),
    (60545496652, 0), (60568309852, 1), (60584031052, 0), (60599759452, 1), (60615480652, 0),
    (60631813852, 1), (60646930252, 0), (60663263452, 1), (60678379852, 0), (60694713052, 1),
    (60709829452, 0), (60726162652, 1), (60741279052, 0), (60757612252, 1), (60773333452, 0),
    (60789061852, 1), (60804783052, 0), (60821116252, 1), (60836232652, 0), (60852565852, 1),
    (60867682252, 0), (60884015452, 1), (60899131852, 0), (60915465052, 1), (60930581452, 0),
    (60946914652, 1), (60962635852, 0), (60978969052, 1), (60994085452, 0), (61010418652, 1),
    (61025535052, 0), (61038675052, 2), (61041868200, 3), (61056984600, 2), (61073926200, 3),
    (61086623400, 2), (61105375800, 3), (61118073000, 2), (61136825400, 3), (61149522600, 2),
    (61168879800, 3), (61180972200, 2), (61200329400, 3), (61213026600, 2), (61231779000, 3),
    (61244476200, 2), (61263228600, 3), (61370195400, 2), (61389552600, 3), (61402249800, 2),
    (61421002200, 3), (61433699400, 2), (61452451800, 3), (61465149000, 2), (61483901400, 3),
    (61496598600, 2), (61515955800, 3), (61528653000, 2), (61546195800, 3), (61559497800, 2),
    (61577645400, 3), (61590947400, 2), (61609095000, 3), (61622397000, 2), (61640544600, 3),
    (61653846600, 2), (61671994200, 3), (61685296200, 2), (61704048600, 3), (61717350600, 2),
    (61735498200, 3), (61748800200, 2), (61766947800, 3), (61780249800, 2), (61798397400, 3),
    (61811699400, 2), (61829847000, 3), (61846173000, 2), (61861901400, 3), (61877622600, 2),
    (61893351000, 3), (61909072200, 2), (61924800600, 3), (61940521800, 2), (61956250200, 3),
    (61971971400, 2), (61987699800, 3), (62004025800, 2), (62019149400, 3), (62035475400, 2),
    (62051203800, 3), (62066925000, 2), (62082653400, 3), (62098374600, 2), (62114103000, 3),
    (62129824200, 2), (62145552600, 3), (62161273800, 2), (62177002200, 3), (62193328200, 2),
    (62209056600, 3), (62224777800, 2), (62240506200, 3), (62256227400, 2), (62271955800, 3),
    (62287677000, 2), (62303405400, 3), (62319126600, 2), (62334855000, 3), (62351181000, 2),
    (62366304600, 3), (62382630600, 2), (62398359000, 3), (62414080200, 2), (62429808600, 3),
    (62445529800, 2), (62461258200, 3), (62476979400, 2), (62492707800, 3), (62508429000, 2),
    (62524157400, 3), (62540483400, 2), (62555607000, 3), (62571933000, 2), (62587661400, 3),
    (62603382600, 2), (62619111000, 3), (62634832200, 2), (62650560600, 3), (62666281800, 2),
    (62680188660, 3), (62697724260, 2), (62711638260, 4), (62729775060, 2), (62743087860, 3),
    (62761228260, 2), (62774537460, 3), (62792677860, 2), (62806591860, 3), (62824127460, 2),
    (62838041460, 3), (62855577060, 2), (62869491060, 3), (62887631460, 2), (62900940660, 3),
    (62919081060, 2), (62932390260, 3), (62950530660, 2), (62964444660, 3), (62981980260, 2),
    (62995894260, 3), (63013429860, 2), (63027343860, 3), (63044879460, 2), (63058793460, 3),
    (63076933860, 2), (63090243060, 3), (63108383460, 2), (63121692660, 3), (63139833060, 2),
    (63153747060, 3), (63171282660, 2), (63185196660, 3), (63202732260, 2), (63216646260, 3),
    (63234786660, 2), (63248095860, 3), (63266236260, 2), (63279545460, 3), (63297685860, 2),
    (63309180660, 3), (63329740260, 2), (63340630260, 3), (63361189860, 2), (63372079860, 3),
    (63392639460, 2), (63404134260, 3), (63424693860, 2), (63435583860, 3)]
    (.yearly 63455711400 2011 ⟨-12600, -9000, ⟨3, 2, 0, 7200⟩, ⟨11, 1, 0, 7200⟩⟩)

def est : Zone :=
  .ofTable "EST" [-19088, -19176, -18000] [
    (59611094288, 1), (60188678376, 2)]
    .constant

end FilterPipeline.Zone
