import FocusBilling.Time.Calendar

/-!
# Time zones

How wall clocks and instants go together in the zones whose rules are kept.

* `Zone` : changes of the offset at instants, then changes that come back every year;
* `Zone.offsetAt` : the offset from UTC at an instant;
* `Zone.instants` : the instants at which clocks show a wall-clock time: one, none in a gap, two
  where clocks are put back.
-/

namespace FocusBilling

/-- A change of the offset that comes back every year: on the `week`-th Sunday of a month, the
last where `week` is zero. -/
structure YearlyChange where
  /-- The month. -/
  month : Nat
  /-- Which Sunday. -/
  week : Nat
  /-- Seconds from midnight UTC of that day. -/
  second : Int
  /-- The offset from then on, in seconds. -/
  offset : Int

/-- A time zone. -/
structure Zone where
  /-- The offset before the first change. -/
  first : Int
  /-- Instants and offsets of changes, in order. -/
  changes : List (Int × Int)
  /-- First year of the changes that come back. -/
  yearlyFrom : Int
  /-- The changes of each year, in order. -/
  yearly : List YearlyChange

namespace Zone

/-- The year in which changes no longer come back. -/
def yearlyUntil : Int := 2100

/-- The instant of a yearly change, in seconds. -/
def YearlyChange.instant (c : YearlyChange) (year : Int) : Int :=
  let day :=
    if c.week = 0 then
      let last := Calendar.daysOf year c.month (Calendar.daysInMonth year c.month)
      last - ((Calendar.weekday last + 1) % 7 : Nat)
    else
      let first := Calendar.daysOf year c.month 1
      first + ((13 - Calendar.weekday first) % 7 : Nat) + 7 * ((c.week : Int) - 1)
  day * Calendar.daySeconds + c.second

/-- The changes of one year. -/
def changesOf (z : Zone) (year : Int) : List (Int × Int) :=
  if z.yearlyFrom ≤ year && year < yearlyUntil then
    z.yearly.map fun c => (YearlyChange.instant c year, c.offset)
  else []

/-- The changes up to the end of a year, the last ones that matter for it. -/
def changesAround (z : Zone) (year : Int) : List (Int × Int) :=
  let year := min year (yearlyUntil - 1)
  z.changes ++ (changesOf z (year - 1) ++ changesOf z year ++ changesOf z (year + 1))

/-- The offset after the last change that is not later than an instant. -/
def lastOffset (first : Int) (changes : List (Int × Int)) (instant : Int) : Int :=
  changes.foldl (fun o (t, o') => if t ≤ instant then o' else o) first

/-- The year of an instant. -/
def yearOf (instant : Int) : Int :=
  (Calendar.dateOf (Int.fdiv instant Calendar.daySeconds)).year

/-- The offset from UTC at an instant, in seconds. -/
def offsetAt (z : Zone) (instant : Int) : Int :=
  lastOffset z.first (z.changesAround (yearOf instant)) instant

/-- The offsets in force around a wall-clock time. -/
def offsetsAround (z : Zone) (wall : Int) : List Int :=
  [z.offsetAt (wall - 86400), z.offsetAt (wall + 86400)].eraseDups

/-- The instants at which clocks show a wall-clock time, in order. -/
def instants (z : Zone) (wall : Int) : List Int :=
  ((z.offsetsAround wall).filterMap fun o =>
    if z.offsetAt (wall - o) = o then some (wall - o) else none).mergeSort

/-! ### The zones -/

/-- A whole number with an optional sign. -/
def readInt (cs : List Char) : Int :=
  match cs with
  | '-' :: ds => -(Text.digitsValue 10 ds : Int)
  | ds => Text.digitsValue 10 ds

/-- Numbers in pairs. -/
def pairs : List Int → List (Int × Int)
  | a :: b :: rest => (a, b) :: pairs rest
  | _ => []

/-- A zone from its first offset and its changes as a text. -/
def ofText (s : String) (yearlyFrom : Int) (yearly : List YearlyChange) : Zone :=
  match (Text.splitOn ' ' s.toList).map readInt with
  | first :: rest => ⟨first, pairs rest, yearlyFrom, yearly⟩
  | [] => ⟨0, [], yearlyFrom, yearly⟩

/-- The first offset of `America/New_York`, then instants and offsets of its changes. -/
def newYorkText : String :=
    "-17762 -2717650800 -18000 -1633280400 -14400 -1615140000 -18000 -1601830800 -14400 " ++
    "-1583690400 -18000 -1570381200 -14400 -1551636000 -18000 -1536512400 -14400 -1523210400 " ++
    "-18000 -1504458000 -14400 -1491760800 -18000 -1473008400 -14400 -1459706400 -18000 " ++
    "-1441558800 -14400 -1428256800 -18000 -1410109200 -14400 -1396807200 -18000 -1378659600 " ++
    "-14400 -1365357600 -18000 -1347210000 -14400 -1333908000 -18000 -1315155600 -14400 " ++
    "-1301853600 -18000 -1283706000 -14400 -1270404000 -18000 -1252256400 -14400 -1238954400 " ++
    "-18000 -1220806800 -14400 -1207504800 -18000 -1189357200 -14400 -1176055200 -18000 " ++
    "-1157302800 -14400 -1144605600 -18000 -1125853200 -14400 -1112551200 -18000 -1094403600 " ++
    "-14400 -1081101600 -18000 -1062954000 -14400 -1049652000 -18000 -1031504400 -14400 " ++
    "-1018202400 -18000 -1000054800 -14400 -986752800 -18000 -968000400 -14400 -955303200 " ++
    "-18000 -936550800 -14400 -923248800 -18000 -905101200 -14400 -891799200 -18000 " ++
    "-880218000 -14400 -765396000 -18000 -747248400 -14400 -733946400 -18000 -715798800 " ++
    "-14400 -702496800 -18000 -684349200 -14400 -671047200 -18000 -652899600 -14400 " ++
    "-639597600 -18000 -620845200 -14400 -608148000 -18000 -589395600 -14400 -576093600 " ++
    "-18000 -557946000 -14400 -544644000 -18000 -526496400 -14400 -513194400 -18000 " ++
    "-495046800 -14400 -481744800 -18000 -463597200 -14400 -447271200 -18000 -431542800 " ++
    "-14400 -415821600 -18000 -400093200 -14400 -384372000 -18000 -368643600 -14400 " ++
    "-352922400 -18000 -337194000 -14400 -321472800 -18000 -305744400 -14400 -289418400 " ++
    "-18000 -273690000 -14400 -257968800 -18000 -242240400 -14400 -226519200 -18000 " ++
    "-210790800 -14400 -195069600 -18000 -179341200 -14400 -163620000 -18000 -147891600 " ++
    "-14400 -131565600 -18000 -116442000 -14400 -100116000 -18000 -84387600 -14400 -68666400 " ++
    "-18000 -52938000 -14400 -37216800 -18000 -21488400 -14400 -5767200 -18000 9961200 " ++
    "-14400 25682400 -18000 41410800 -14400 57736800 -18000 73465200 -14400 89186400 -18000 " ++
    "104914800 -14400 120636000 -18000 126687600 -14400 152085600 -18000 162370800 -14400 " ++
    "183535200 -18000 199263600 -14400 215589600 -18000 230713200 -14400 247039200 -18000 " ++
    "262767600 -14400 278488800 -18000 294217200 -14400 309938400 -18000 325666800 -14400 " ++
    "341388000 -18000 357116400 -14400 372837600 -18000 388566000 -14400 404892000 -18000 " ++
    "420015600 -14400 436341600 -18000 452070000 -14400 467791200 -18000 483519600 -14400 " ++
    "499240800 -18000 514969200 -14400 530690400 -18000 544604400 -14400 562140000 -18000 " ++
    "576054000 -14400 594194400 -18000 607503600 -14400 625644000 -18000 638953200 -14400 " ++
    "657093600 -18000 671007600 -14400 688543200 -18000 702457200 -14400 719992800 -18000 " ++
    "733906800 -14400 752047200 -18000 765356400 -14400 783496800 -18000 796806000 -14400 " ++
    "814946400 -18000 828860400 -14400 846396000 -18000 860310000 -14400 877845600 -18000 " ++
    "891759600 -14400 909295200 -18000 923209200 -14400 941349600 -18000 954658800 -14400 " ++
    "972799200 -18000 986108400 -14400 1004248800 -18000 1018162800 -14400 1035698400 -18000 " ++
    "1049612400 -14400 1067148000 -18000 1081062000 -14400 1099202400 -18000 1112511600 " ++
    "-14400 1130652000 -18000 1143961200 -14400 1162101600 -18000"

/-- The first offset of `Europe/London`, then instants and offsets of its changes. -/
def londonText : String :=
    "-75 -3852662325 0 -1691964000 3600 -1680472800 0 -1664143200 3600 -1650146400 0 " ++
    "-1633903200 3600 -1617487200 0 -1601848800 3600 -1586037600 0 -1570399200 3600 " ++
    "-1552168800 0 -1538344800 3600 -1522533600 0 -1507500000 3600 -1490565600 0 -1473631200 " ++
    "3600 -1460930400 0 -1442786400 3600 -1428876000 0 -1410732000 3600 -1396216800 0 " ++
    "-1379282400 3600 -1364767200 0 -1348437600 3600 -1333317600 0 -1315778400 3600 " ++
    "-1301263200 0 -1284328800 3600 -1269813600 0 -1253484000 3600 -1238364000 0 -1221429600 " ++
    "3600 -1206914400 0 -1189980000 3600 -1175464800 0 -1159135200 3600 -1143410400 0 " ++
    "-1126476000 3600 -1111960800 0 -1095631200 3600 -1080511200 0 -1063576800 3600 " ++
    "-1049061600 0 -1032127200 3600 -1017612000 0 -1001282400 3600 -986162400 0 -969228000 " ++
    "3600 -950479200 0 -942012000 3600 -904518000 7200 -896050800 3600 -875487600 7200 " ++
    "-864601200 3600 -844038000 7200 -832546800 3600 -812588400 7200 -798073200 3600 " ++
    "-781052400 7200 -772066800 3600 -764805600 0 -748476000 3600 -733356000 0 -719445600 " ++
    "3600 -717030000 7200 -706748400 3600 -699487200 0 -687996000 3600 -668037600 0 " ++
    "-654732000 3600 -636588000 0 -622072800 3600 -605743200 0 -590623200 3600 -574293600 0 " ++
    "-558568800 3600 -542239200 0 -527119200 3600 -512604000 0 -496274400 3600 -481154400 0 " ++
    "-464220000 3600 -449704800 0 -432165600 3600 -417650400 0 -401320800 3600 -386200800 0 " ++
    "-369266400 3600 -354751200 0 -337816800 3600 -323301600 0 -306972000 3600 -291852000 0 " ++
    "-276732000 3600 -257983200 0 -245282400 3600 -226533600 0 -213228000 3600 -195084000 0 " ++
    "-182383200 3600 -163634400 0 -150933600 3600 -132184800 0 -119484000 3600 -100735200 0 " ++
    "-88034400 3600 -68680800 0 -59004000 3600 57722400 0 69818400 3600 89172000 0 101268000 " ++
    "3600 120621600 0 132717600 3600 152071200 0 164167200 3600 183520800 0 196221600 3600 " ++
    "214970400 0 227671200 3600 246420000 0 259120800 3600 278474400 0 290570400 3600 " ++
    "309924000 0 322020000 3600 341373600 0 354675600 3600 372819600 0 386125200 3600 " ++
    "404269200 0 417574800 3600 435718800 0 449024400 3600 467773200 0 481078800 3600 " ++
    "499222800 0 512528400 3600 530672400 0 543978000 3600 562122000 0 575427600 3600 " ++
    "593571600 0 606877200 3600 625626000 0 638326800 3600 657075600 0 670381200 3600 " ++
    "688525200 0 701830800 3600 719974800 0 733280400 3600 751424400 0 764730000 3600 " ++
    "782874000 0 796179600 3600 814323600 0"

/-- The first offset of `Australia/Lord_Howe`, then instants and offsets of its changes. -/
def lordHoweText : String :=
    "38180 -2364114980 36000 352216800 37800 372785400 41400 384273000 37800 404839800 41400 " ++
    "415722600 37800 436289400 41400 447172200 37800 467739000 41400 478621800 37800 " ++
    "499188600 39600 511282800 37800 530033400 39600 542732400 37800 562087800 39600 " ++
    "574786800 37800 594142200 39600 606236400 37800 625591800 39600 636476400 37800 " ++
    "657041400 39600 667926000 37800 688491000 39600 699375600 37800 719940600 39600 " ++
    "731430000 37800 751995000 39600 762879600 37800 783444600 39600 794329200 37800 " ++
    "814894200 39600 828198000 37800 846343800 39600 859647600 37800 877793400 39600 " ++
    "891097200 37800 909243000 39600 922546800 37800 941297400 39600 953996400 37800 " ++
    "967303800 39600 985446000 37800 1004196600 39600 1017500400 37800 1035646200 39600 " ++
    "1048950000 37800 1067095800 39600 1080399600 37800 1099150200 39600 1111849200 37800 " ++
    "1130599800 39600 1143903600 37800 1162049400 39600 1174748400 37800 1193499000 39600"

/-- The first offset of `Australia/Sydney`, then instants and offsets of its changes. -/
def sydneyText : String :=
    "36292 -2364113092 36000 -1672560000 39600 -1665388800 36000 -883641600 39600 -876124800 " ++
    "36000 -860400000 39600 -844675200 36000 -828345600 39600 -813225600 36000 57686400 " ++
    "39600 67968000 36000 89136000 39600 100022400 36000 120585600 39600 131472000 36000 " ++
    "152035200 39600 162921600 36000 183484800 39600 194976000 36000 215539200 39600 " ++
    "226425600 36000 246988800 39600 257875200 36000 278438400 39600 289324800 36000 " ++
    "309888000 39600 320774400 36000 341337600 39600 352224000 36000 372787200 39600 " ++
    "386697600 36000 404841600 39600 415728000 36000 436291200 39600 447177600 36000 " ++
    "467740800 39600 478627200 36000 499190400 39600 511286400 36000 530035200 39600 " ++
    "542736000 36000 562089600 39600 574790400 36000 594144000 39600 606240000 36000 " ++
    "625593600 39600 636480000 36000 657043200 39600 667929600 36000 688492800 39600 " ++
    "699379200 36000 719942400 39600 731433600 36000 751996800 39600 762883200 36000 " ++
    "783446400 39600 794332800 36000 814896000 39600 828201600 36000 846345600 39600 " ++
    "859651200 36000 877795200 39600 891100800 36000 909244800 39600 922550400 36000 " ++
    "941299200 39600 954000000 36000 967305600 39600 985449600 36000 1004198400 39600 " ++
    "1017504000 36000 1035648000 39600 1048953600 36000 1067097600 39600 1080403200 36000 " ++
    "1099152000 39600 1111852800 36000 1130601600 39600 1143907200 36000 1162051200 39600 " ++
    "1174752000 36000 1193500800 39600"

/-- The first offset of `Asia/Kolkata`, then instants and offsets of its changes. -/
def kolkataText : String :=
    "21208 -3645237208 21200 -3155694800 19270 -2019705670 19800 -891581400 23400 -872058600 " ++
    "19800 -862637400 23400 -764145000 19800"

/-- The first offset of `Asia/Tokyo`, then instants and offsets of its changes. -/
def tokyoText : String :=
    "33539 -2587712400 32400 -683802000 36000 -672310800 32400 -654771600 36000 -640861200 " ++
    "32400 -620298000 36000 -609411600 32400 -588848400 36000 -577962000 32400"

/-- `UTC`. -/
def utc : Zone := ⟨0, [], yearlyUntil, []⟩

/-- `America/New_York`. -/
def newYork : Zone := ofText newYorkText 2007 [⟨3, 2, 25200, -14400⟩, ⟨11, 1, 21600, -18000⟩]

/-- `Europe/London`. -/
def london : Zone := ofText londonText 1996 [⟨3, 0, 3600, 3600⟩, ⟨10, 0, 3600, 0⟩]

/-- `Australia/Lord_Howe`. -/
def lordHowe : Zone := ofText lordHoweText 2008 [⟨4, 1, -32400, 37800⟩, ⟨10, 1, -30600, 39600⟩]

/-- `Australia/Sydney`. -/
def sydney : Zone := ofText sydneyText 2008 [⟨4, 1, -28800, 36000⟩, ⟨10, 1, -28800, 39600⟩]

/-- `Asia/Kolkata`. -/
def kolkata : Zone := ofText kolkataText yearlyUntil []

/-- `Asia/Tokyo`. -/
def tokyo : Zone := ofText tokyoText yearlyUntil []

/-- The zone of a name; zones whose rules are not kept count as `UTC`. -/
def named (name : String) : Zone :=
  match name with
  | "America/New_York" => newYork
  | "Europe/London" => london
  | "Australia/Lord_Howe" => lordHowe
  | "Australia/Sydney" => sydney
  | "Asia/Kolkata" => kolkata
  | "Asia/Tokyo" => tokyo
  | _ => utc

end Zone

end FocusBilling
