import Ingest.Calendar.Zone.Basic

/-!
# Known time zones

The offset tables of the zones known by name. The rules of the two zones with summer time are
tabulated for the years 2007 to 2037.
-/

namespace Ingest
namespace Calendar
namespace Zone

def utc : Zone where
  name := "UTC"
  initialOffset := 0
  changes := []

def gmtPlus5 : Zone where
  name := "Etc/GMT+5"
  initialOffset := -18000
  changes := []

def gmtMinus14 : Zone where
  name := "Etc/GMT-14"
  initialOffset := 50400
  changes := []

def kolkata : Zone where
  name := "Asia/Kolkata"
  initialOffset := 19270
  changes := [(-2019705670, 19800), (-891581400, 23400), (-872058600, 19800),
    (-862637400, 23400), (-764145000, 19800)]

def kathmandu : Zone where
  name := "Asia/Kathmandu"
  initialOffset := 20476
  changes := [(-1577943676, 19800), (504901800, 20700)]

def monrovia : Zone where
  name := "Africa/Monrovia"
  initialOffset := -2588
  changes := [(-1604359012, -2670), (63593070, 0)]

def apia : Zone where
  name := "Pacific/Apia"
  initialOffset := 45184
  changes := [(-2445424384, -41216), (-1861878784, -41400), (-631110600, -39600),
    (1285498800, -36000), (1301752800, -39600), (1316872800, -36000), (1325239200, 50400),
    (1333202400, 46800), (1348927200, 50400), (1365256800, 46800), (1380376800, 50400),
    (1396706400, 46800), (1411826400, 50400), (1428156000, 46800), (1443276000, 50400),
    (1459605600, 46800), (1474725600, 50400), (1491055200, 46800), (1506175200, 50400),
    (1522504800, 46800), (1538229600, 50400), (1554559200, 46800), (1569679200, 50400),
    (1586008800, 46800), (1601128800, 50400), (1617458400, 46800)]

def pyongyang : Zone where
  name := "Asia/Pyongyang"
  initialOffset := 30180
  changes := [(-1948782180, 30600), (-1830414600, 32400), (1439564400, 30600),
    (1525446000, 32400)]

def caracas : Zone where
  name := "America/Caracas"
  initialOffset := -16064
  changes := [(-2524505536, -16060), (-1826739140, -16200), (-157750200, -14400),
    (1197183600, -16200), (1462086000, -14400)]

def kwajalein : Zone where
  name := "Pacific/Kwajalein"
  initialOffset := 40160
  changes := [(-2177492960, 39600), (-1041418800, 36000), (-907408800, 32400),
    (-817462800, 39600), (-7988400, -43200), (745934400, 43200)]

def warsaw : Zone where
  name := "Europe/Warsaw"
  initialOffset := 3600
  changes := [(1174784400, 7200), (1193533200, 3600), (1206838800, 7200), (1224982800, 3600),
    (1238288400, 7200), (1256432400, 3600), (1269738000, 7200), (1288486800, 3600),
    (1301187600, 7200), (1319936400, 3600), (1332637200, 7200), (1351386000, 3600),
    (1364691600, 7200), (1382835600, 3600), (1396141200, 7200), (1414285200, 3600),
    (1427590800, 7200), (1445734800, 3600), (1459040400, 7200), (1477789200, 3600),
    (1490490000, 7200), (1509238800, 3600), (1521939600, 7200), (1540688400, 3600),
    (1553994000, 7200), (1572138000, 3600), (1585443600, 7200), (1603587600, 3600),
    (1616893200, 7200), (1635642000, 3600), (1648342800, 7200), (1667091600, 3600),
    (1679792400, 7200), (1698541200, 3600), (1711846800, 7200), (1729990800, 3600),
    (1743296400, 7200), (1761440400, 3600), (1774746000, 7200), (1792890000, 3600),
    (1806195600, 7200), (1824944400, 3600), (1837645200, 7200), (1856394000, 3600),
    (1869094800, 7200), (1887843600, 3600), (1901149200, 7200), (1919293200, 3600),
    (1932598800, 7200), (1950742800, 3600), (1964048400, 7200), (1982797200, 3600),
    (1995498000, 7200), (2014246800, 3600), (2026947600, 7200), (2045696400, 3600),
    (2058397200, 7200), (2077146000, 3600), (2090451600, 7200), (2108595600, 3600),
    (2121901200, 7200), (2140045200, 3600)]

def newYork : Zone where
  name := "America/New_York"
  initialOffset := -18000
  changes := [(1173596400, -14400), (1194156000, -18000), (1205046000, -14400),
    (1225605600, -18000), (1236495600, -14400), (1257055200, -18000), (1268550000, -14400),
    (1289109600, -18000), (1299999600, -14400), (1320559200, -18000), (1331449200, -14400),
    (1352008800, -18000), (1362898800, -14400), (1383458400, -18000), (1394348400, -14400),
    (1414908000, -18000), (1425798000, -14400), (1446357600, -18000), (1457852400, -14400),
    (1478412000, -18000), (1489302000, -14400), (1509861600, -18000), (1520751600, -14400),
    (1541311200, -18000), (1552201200, -14400), (1572760800, -18000), (1583650800, -14400),
    (1604210400, -18000), (1615705200, -14400), (1636264800, -18000), (1647154800, -14400),
    (1667714400, -18000), (1678604400, -14400), (1699164000, -18000), (1710054000, -14400),
    (1730613600, -18000), (1741503600, -14400), (1762063200, -18000), (1772953200, -14400),
    (1793512800, -18000), (1805007600, -14400), (1825567200, -18000), (1836457200, -14400),
    (1857016800, -18000), (1867906800, -14400), (1888466400, -18000), (1899356400, -14400),
    (1919916000, -18000), (1930806000, -14400), (1951365600, -18000), (1962860400, -14400),
    (1983420000, -18000), (1994310000, -14400), (2014869600, -18000), (2025759600, -14400),
    (2046319200, -18000), (2057209200, -14400), (2077768800, -18000), (2088658800, -14400),
    (2109218400, -18000), (2120108400, -14400), (2140668000, -18000)]

def known : List Zone :=
  [utc, gmtPlus5, gmtMinus14,
    kolkata, kathmandu, monrovia, apia, pyongyang, caracas, kwajalein, warsaw, newYork]

def named? : ZoneDatabase := fun name =>
  known.find? fun z => z.name == name

end Zone
end Calendar
end Ingest
