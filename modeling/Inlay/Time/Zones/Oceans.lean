/-!
# Zones of Australia, Antarctica and the oceans

Records of time zones, as the zone reader takes them: the names of a zone, its
yearly rule, its local times and its changes.
-/

namespace Inlay.Time.Zones

def oceansRecords : List (List String) :=
  [["Antarctica/Casey <+08>-8 0:-00,28800:+08,39600:+11 b911860 c15D368 b33B4 cE1CC b2BDC c27EFC",
    "bBD64 c4ECC b3C50 c4B6C b3A74 C114DB3C BD41714 C10BCAEC BD41714 C10BCAEC BD04CC4"],
   ["Antarctica/Davis <+07>-7 0:-00,25200:+07,18000:+05 b8AB140 a42C44 b2467C c15C7CC b3604 cDF7C",
    "b2BE4"],
   ["Antarctica/DumontDUrville <+10>-10 0:-00,36000:+10 b8552E0 a2B178 b29188"],
   ["Antarctica/Macquarie AEST-10AEDT,M10.1.0,M4.1.0/3 0:-00,36000:AEST,39600:AEDT b6C16C0 c90CA0",
    "b41A0 a11458 bF81E8 cA7140 b4440 c4EC0 b31E0 c56A0 b31E0 c56A0 b3480 c56A0 b2CA0 c5BE0 b2F40",
    "c5940 b2F40 c5940 b2F40 c5940 b31E0 c5940 b2F40 c5940 b2F40 c5940 b2F40 c5940 b2F40 c5940",
    "b2F40 c5940 b39C0 c5160 b3720 c5160 b2F40 c5940 b2F40 c5940 b2F40 c56A0 b3720 c5400 b3720",
    "c5400 b3480 c5400 b3480 c5400 b39C0 c46E0 b41A0 c46E0 b41A0 c46E0 b41A0 c46E0 b41A0 c46E0",
    "b4440 c46E0 b41A0 c46E0 b41A0 c46E0 b41A0 c46E0 b41A0 c39C0 b4EC0 c4980 b41A0 c46E0 b41A0",
    "c46E0 b41A0 c46E0 b41A0 c46E0 b4440 c4440 b41A0 c4980 b4440 c4440 b4440 c4440 bCCC0"],
   ["Antarctica/Mawson <+05>-5 0:-00,21600:+06,18000:+05 b8921E0 c1DC9F0"],
   ["Antarctica/McMurdo NZST-12NZDT,M9.5.0,M4.1.0/3 0:-00,43200:NZST,46800:NZDT b8A2380 cA1438",
    "b2A00 c5BE0 b31E0 c5940 b2F40 c5940 b2F40 c5940 b2F40 c5940 b2F40 c5940 b2F40 c5940 b31E0",
    "c5940 b2F40 c5940 b2F40 c5940 b2F40 c5940 b2F40 c5940 b2F40 c5940 b31E0 c5940 b2F40 c5160",
    "b3C60 c4C20 b3C60 c4C20 b3C60 c4C20 b3F00 c4980 b3F00 c4980 b3F00 c4980 b3F00 c4C20 b3C60",
    "c4C20 b3C60 c4C20 b3F00 c4980 b3F00 c4980 b3F00 c4C20 b3C60 c4C20 b3C60 c4C20 b3F00 c4980",
    "b3F00 c4980 b3F00 c4980 b3F00 c4980"],
   ["Antarctica/Palmer <-03>3 0:-00,-10800:-03,-14400:-04,-7200:-02 b8EF480 c162C b5584 c335C",
    "b5584 c3F5C b4444 c46DC b4444 c443C b4444 d24D1C b24BC c447C4 b3CC4 c39BC b4EC4 c39BC b5164",
    "c371C b5164 c371C b5164 c443C b4444 c39BC b4EC4 c39BC b5164 c371C b46E4 c419C b5164 c39BC",
    "b4EC4 c39BC b4EC4 c39BC b4EC4 c39BC b5164 c371C b5164 c3EFC b4984 c39BC b4984 c46DC b46E4",
    "c39BC b5164 c371C b5164 c371C b5164 c371C b5164 c39BC b4EC4 c39BC b4EC4 c39BC b5164 c371C",
    "b5164 c3EFC b4984 c39BC b4EC4 c419C b46E4 c4EBC b2764 c5E7C b2F44 c593C b31E4 c569C b31E4",
    "cE6FC b2224"],
   ["Antarctica/Rothera <-03>3 0:-00,-10800:-03 b955480"],
   ["Antarctica/Syowa <+03>-3 0:-00,10800:+03 b8AB740"],
   ["Antarctica/Troll <+00>0<+02>-2,M3.5.0/1,M10.5.0/3 0:-00,0:+00 bA46B00"],
   ["Antarctica/Vostok <+05>-5 0:-00,25200:+07,18000:+05 b8B2FA0 a135464 b667C cF958C"],
   ["Arctic/Longyearbyen,Atlantic/Jan_Mayen CET-1CEST,M3.5.0,M10.5.0/3",
    "2580:LMT,3600:CET,7200:CEST B172E9096C C2839BE94 b3118 cCC480 b130EC c3720 b46E0 c4440 b4440",
    "c4440 b4440 c73260 b46E0 c4440 b4440 c4440 b4440 c4440 b4440 c4440 b4440 c4440 b46E0 c5160",
    "b3720 c7C860 b41A0 c4440 b4440 c4440 b4440 c4440 b4440 c4440 b46E0 c4440 b4440 c4440 b4440",
    "c4440 b4440 c4440 b4440 c4440 b4440 c4440 b46E0 c4440 b4440 c4440 b4440 c4440 b4440 c4440",
    "b4440 c4440 b4440 c46E0"],
   ["Atlantic/Azores <-01>1<+00>,M3.5.0/0,M10.5.0/1",
    "-6160:LMT,-6872:HMT,-7200:-02,-3600:-01,0:+00,0:WET,3600:WEST B15E380090 C34A98F10 d2633C",
    "c3304 d2D00 c557C d3364 c557C d3364 c557C d33C4 c557C d3364 c557C d15720 c4020 dD200 c3F00",
    "d46E0 c41A0 d4980 c41A0 d4980 c3F00 dD200 c3F00 d4440 c4440 dCF60 c4440 d41A0 c46E0 d4980",
    "c3F00 d4440 c4440 d41A0 c46E0 d4980 c5160 d24C0 c54C0 d4380 c44A0 d3C00 eFBC d2A00 c1A44",
    "d3480 eD1C d31E0 c17A4 d31E0 eFBC d2F40 c17A4 d31E0 eFBC d2F40 c17A4 d3C60 c4440 d444C c4440",
    "d4440 c4440 d4440 c4440 d4440 c4440 d4440 c46E0 d4440 c4440 d4440 c4440 d4440 c4440 d4440",
    "c4440 d4440 c46E0 d4440 c4440 d4440 c4440 d4440 c4440 d4440 c4440 d4440 c4440 d4440 c46E0",
    "d4440 c4440 d4440 c4440 d4440 c4440 d4440 e88D34 d4440 e4440 d4440 e4440 d46E0 e4440 d4440",
    "e4440 d4440 e4440 d4440 e4440 d4440 e4440 d4440 e4440 d46E0 e4440 d4440 e4440 d4440 f2224",
    "g221C e1E60 d25E0 e4440 d4440 e4440 d4440 e46E0"],
   ["Atlantic/Bermuda AST4ADT,M3.2.0,M11.1.0",
    "-15558:LMT,-15558:BMT,-11958:BST,-14400:AST,-10800:ADT B16981FD46 cE9580 b42BC c4924 b3A1C",
    "d60AEC E169F88FA d68FC e39C4 d53FC e31E4 d593C e2F44 d593C eD204 d2C9C e5E84 d275C e6124",
    "d275C e63C4 d24BC e63C4 d24BC e63C4 d275C e1FD44 d39BC e95CA4 d443C e4444 d443C e4444 d46DC",
    "e41A4 d46DC e4444 d443C e4444 d443C e4444 d443C e4444 d443C e4444 d46DC e41A4 d46DC e4444",
    "d443C e4444 d443C e4444 d443C e3C64 d4C1C e3C64 d4EBC e39C4 d4EBC e39C4 d4EBC e3C64 d4C1C",
    "e3C64 d4C1C e3C64 d4EBC e39C4 d4EBC e39C4 d4EBC e3C64 d4C1C e3C64 d4C1C e3C64 d4C1C e3C64",
    "d4EBC e39C4 d4EBC e39C4 d4EBC e3C64 d4C1C e3C64 d4C1C e3C64 d4EBC e39C4 d4EBC e39C4 d4EBC",
    "e31E4"],
   ["Atlantic/Canary WET0WEST,M3.5.0/1,M10.5.0 -3696:LMT,-3600:-01,0:WET,3600:WEST B1A5FF41F0",
    "C2E3D9A30 d11EEB8 c41A4 d4440 c4440 d4440 c4440 d4440 c4440 d4440 c46E0 d4440 c4440 d4440",
    "c4440 d4440 c4440 d4440 c4440 d4440 c4440 d4440 c46E0 d4440 c4440 d4440 c4440 d4440 c4440",
    "d4440 c4440 d4440 c4440 d46E0"],
   ["Atlantic/Cape_Verde <-01>1 -5644:LMT,-7200:-02,-3600:-01 b7298E8 c106860 b1AB7C c101C4C"],
   ["Atlantic/Faroe WET0WEST,M3.5.0/1,M10.5.0 -1624:LMT,0:WET,3600:WEST B18B688958 C89B64738",
    "b4440 c4440 b4440 c4440 b4440 c4440 b46E0 c4440 b4440 c4440 b4440 c4440 b4440 c4440 b4440",
    "c4440 b4440 c4440 b46E0 c4440 b4440 c4440 b4440 c4440 b4440 c4440 b4440 c4440 b4440 c46E0"],
   ["Atlantic/Madeira WET0WEST,M3.5.0/1,M10.5.0",
    "-4056:LMT,-4056:FMT,-3600:-01,0:+00,3600:+01,0:WET,3600:WEST B15E37F858 C34A98938 d2633C",
    "c3304 d2D00 c557C d3364 c557C d3364 c557C d33C4 c557C d3364 c557C d15720 c4020 dD200 c3F00",
    "d46E0 c41A0 d4980 c41A0 d4980 c3F00 dD200 c3F00 d4440 c4440 dCF60 c4440 d41A0 c46E0 d4980",
    "c3F00 d4440 c4440 d41A0 c46E0 d4980 c5160 d24C0 c54C0 d4380 c44A0 d3C00 eFBC d2A00 c1A44",
    "d3480 eD1C d31E0 c17A4 d31E0 eFBC d2F40 c17A4 d31E0 eFBC d2F40 c17A4 d3C60 c4440 d444C c4440",
    "d4440 c4440 d4440 c4440 d4440 c4440 d4440 c46E0 d4440 c4440 d4440 c4440 d4440 c4440 d4440",
    "c4440 d4440 c46E0 d4440 c4440 d4440 c4440 d4440 c4440 d4440 c4440 d4440 c4440 d4440 c46E0",
    "d4440 c4440 d4440 c4440 d4440 c4440 d4440 f4440 g84B94 f41A0 g4440 f4440 g4440 f46E0 g4440",
    "f4440 g4440 f4444 g4440 f4440 g4440 f4440 g4440 f4440 g4440 f46E0 g4440 f4440 g4440 f4440",
    "g4440 f4440 g4440 f4440 g4440 f4440 g46E0"],
   ["Atlantic/Reykjavik GMT0 -5280:LMT,-3600:-01,0:+00,0:GMT B18B5B68A0 C11309A60 b5B24 c2DBC",
    "b64E4 c23FC b64E4 cB7BC b23A4 c98CFC b4448 c2CA4 b5E7C c2CA0 b5BE0 c2F40 b56A0 c31E0 b56A0",
    "c31E0 b56A0 c31E0 b5940 c2F40 b5940 c3C60 b4C20 c3C60 b4C20 c3C60 b4EC0 c39C0 b4C20 c3C60",
    "b4EC0 c3C60 b4C20 c3C60 b4C20 c3C60 b4C20 c3C60 b4C20 c3C60 b4EC0 c3C60 b4C20 c3C60 b4C20",
    "c3C60 b4C20 c3C60 b4C20 c3C60 b4C20 c3C60 b4EC0 c3C60 b4C20 c3C60 b4C20 c3C60 b4C20 c3C60",
    "b4C20 c3C60 b4EC0 d3C60"],
   ["Atlantic/South_Georgia <-02>2 -8768:LMT,-7200:-02 B16981E2C0"],
   ["Atlantic/St_Helena GMT0 -1368:LMT,-1368:JMT,0:GMT B16981C5D8 c20A2A0"],
   ["Atlantic/Stanley <-03>3 -13884:LMT,-13884:SMT,-14400:-04,-10800:-03,-7200:-02 B16981F6BC",
    "cBDF60 D300AFB84 c419C d46E4 c419C d4984 c419C d46E4 c419C d46E4 c419C d46E4 c23FC d1593C4",
    "e371C d515C e3484 d53FC c85E4 d3724 c515C d3724 c515C d3724 c515C d3724 c53FC d3484 c53FC",
    "d3724 c515C d3724 c515C d3724 c515C d3724 c515C d3724 c53FC d3724 c515C d3724 c515C d3724",
    "c515C d3724 c515C d3724 c5164 d3484 c569C d31E4 c569C d3484 c53FC d3484 c53FC d3484 c53FC",
    "d3484 c53FC d3484 c569C d3484 c53FC d3484 c53FC d3484"],
   ["Australia/Adelaide ACST-9:30ACDT,M10.1.0,M4.1.0/3 33260:LMT,32400:ACST,34200:ACST,37800:ACDT",
    "B173117014 C7FB785C d97446 c1F20 dD4100 c20A0 d4440 c4440 d46E0 c41A0 dEC400 c2CA0 d5BE0",
    "c2F40 d5940 c2F40 d5940 c2F40 d5940 c31E0 d5940 c2F40 d5940 c2F40 d5940 c2F40 d5940 c2F40",
    "d5940 c2F40 d5940 c31E0 d5940 c2F40 d5940 c2F40 d5940 c2F40 d5940 c3480 d5160 c3720 d5400",
    "c3720 d5400 c3480 d5400 c3480 d5400 c2F40 d5940 c3720 d5160 c31E0 d5940 c3480 d5400 c3720",
    "d5160 c39C0 d4EC0 c39C0 d4EC0 c39C0 d4EC0 c39C0 d5160 c3720 d5160 c3720 d5160 c39C0 d4EC0",
    "c39C0 d4EC0 c39C0 d5160 c3720 d5160 c39C0 d4EC0 c3720 d5160"],
   ["Australia/Brisbane AEST-10 36728:LMT,36000:AEST,39600:AEDT B172E88408 C29612378 b1F20 cD4100",
    "b20A0 c4440 b4440 c46E0 b41A0 cEC400 b2CA0 c97440 b2F40 c5940 b2F40 c5940 b2F40"],
   ["Australia/Broken_Hill,Australia/Yancowinna ACST-9:30ACDT,M10.1.0,M4.1.0/3",
    "33948:LMT,36000:AEST,32400:ACST,34200:ACST,37800:ACDT B173116D64 C2EE1D7C d16FE4 e97446",
    "d1F20 eD4100 d20A0 e4440 d4440 e46E0 d41A0 eEC400 d2CA0 e5BE0 d2F40 e5940 d2F40 e5940 d2F40",
    "e5940 d31E0 e5940 d2F40 e5940 d2F40 e5940 d2F40 e5940 d2F40 e5940 d2F40 e5940 d3C60 e4EC0",
    "d2F40 e5940 d2F40 e5940 d2F40 e5940 d3480 e5160 d3720 e5400 d3720 e5400 d3480 e5400 d2F40",
    "e5940 d2F40 e5940 d2F40 e5940 d31E0 e5940 d2F40 e5940 d2F40 e5940 d39C0 e4EC0 d39C0 e4EC0",
    "d39C0 e4EC0 d39C0 e5160 d3720 e5160 d3720 e5160 d39C0 e4EC0 d39C0 e4EC0 d39C0 e5160 d3720",
    "e5160 d39C0 e4EC0 d3720 e5160"],
   ["Australia/Canberra,Australia/Sydney AEST-10AEDT,M10.1.0,M4.1.0/3",
    "36292:LMT,36000:AEST,39600:AEDT B17311643C C29384344 b1F20 cD4100 b20A0 c4440 b4440 c46E0",
    "b41A0 cEC400 b2CA0 c5BE0 b2F40 c5940 b2F40 c5940 b2F40 c5940 b31E0 c5940 b2F40 c5940 b2F40",
    "c5940 b2F40 c5940 b2F40 c5940 b2F40 c5940 b3C60 c4EC0 b2F40 c5940 b2F40 c5940 b2F40 c5940",
    "b3480 c5160 b3720 c5400 b3720 c5400 b3480 c5400 b2F40 c5940 b2F40 c5940 b2F40 c5940 b31E0",
    "c5940 b2F40 c5940 b2F40 c5940 b39C0 c4EC0 b39C0 c4EC0 b39C0 c4EC0 b39C0 c5160 b3720 c39C0",
    "b4EC0 c5160 b39C0 c4EC0 b39C0 c4EC0 b39C0 c5160 b3720 c5160 b39C0 c4EC0 b3720 c5160"],
   ["Australia/Currie,Australia/Hobart AEST-10AEDT,M10.1.0,M4.1.0/3",
    "35356:LMT,36000:AEST,39600:AEDT B17428E5E4 C27A7779C b41A0 c5160 b2F40 c5940 b2F40 cC37E0",
    "b20A0 c4440 b4440 c46E0 b41A0 cC94E0 b4440 c4EC0 b31E0 c56A0 b31E0 c56A0 b3480 c56A0 b2CA0",
    "c5BE0 b2F40 c5940 b2F40 c5940 b2F40 c5940 b31E0 c5940 b2F40 c5940 b2F40 c5940 b2F40 c5940",
    "b2F40 c5940 b2F40 c5940 b39C0 c5160 b3720 c5160 b2F40 c5940 b2F40 c5940 b2F40 c56A0 b3720",
    "c5400 b3720 c5400 b3480 c5400 b3480 c5400 b39C0 c46E0 b41A0 c46E0 b41A0 c46E0 b41A0 c46E0",
    "b41A0 c46E0 b4440 c46E0 b41A0 c46E0 b41A0 c46E0 b41A0 c46E0 b41A0 c39C0 b4EC0 c4980 b41A0",
    "c46E0 b41A0 c46E0 b41A0 c46E0 b41A0 c46E0 b4440 c4440 b41A0 c4980"],
   ["Australia/Darwin ACST-9:30 31400:LMT,32400:ACST,34200:ACST,37800:ACDT B173117758 C7FB7118",
    "d97446 c1F20 dD4100 c20A0 d4440 c4440 d46E0 c41A0"],
   ["Australia/Eucla <+0845>-8:45 30928:LMT,31500:+0845,35100:+0945 B174A0EFB0 C27A8C964 b1F20",
    "cD4100 b20A0 c4440 b4440 c10E600 b2F40 c4A280 b2F40 c41F40 b2760 c7E540 b2A00 c5160 b39C0",
    "c4EC0 b39C0"],
   ["Australia/Lindeman AEST-10 35756:LMT,36000:AEST,39600:AEDT B172E887D4 C29611FAC b1F20 cD4100",
    "b20A0 c4440 b4440 c46E0 b41A0 cEC400 b2CA0 c97440 b2F40 c5940 b2F40 c5940 b2F40 c5940 b31E0",
    "c5940 b2F40"],
   ["Australia/Lord_Howe <+1030>-10:30<+11>-11,M10.1.0,M4.1.0",
    "38180:LMT,36000:AEST,37800:+1030,41400:+1130,39600:+11 B173115CDC CA1E7EF04 d5946 c31DC",
    "d5944 c2F3C d5944 c2F3C d5944 c2F3C e5944 c347E e5162 c371E e5402 c371E e5402 c347E e5402",
    "c2F3E e5942 c2F3E e5942 c2F3E e5942 c31DE e5942 c2F3E e5942 c2F3E e5942 c39BE e4EC2 c39BE",
    "e4EC2 c39BE e4EC2 c39BE e5162 c371E e39C2 c4EBE e5162 c39BE e4EC2 c39BE e4EC2 c39BE e5162",
    "c371E e5162 c39BE e4EC2 c371E e5162"],
   ["Australia/Melbourne AEST-10AEDT,M10.1.0,M4.1.0/3 34792:LMT,36000:AEST,39600:AEDT B173116A18",
    "C29383D68 b1F20 cD4100 b20A0 c4440 b4440 c46E0 b41A0 cEC400 b2CA0 c5BE0 b2F40 c5940 b2F40",
    "c5940 b2F40 c5940 b31E0 c5940 b2F40 c5940 b2F40 c5940 b2F40 c5940 b2F40 c5940 b2F40 c5940",
    "b31E0 c5940 b2F40 c5940 b2F40 c5940 b2F40 c5940 b3480 c5160 b3720 c5160 b39C0 c5400 b3480",
    "c5400 b3480 c5400 b2F40 c5940 b2F40 c5940 b31E0 c5940 b2F40 c5940 b3720 c5160 b39C0 c4EC0",
    "b39C0 c4EC0 b39C0 c4EC0 b39C0 c5160 b3720 c39C0 b4EC0 c5160 b39C0 c4EC0 b39C0 c4EC0 b39C0",
    "c5160 b3720 c5160 b39C0 c4EC0 b3720 c5160"],
   ["Australia/Perth AWST-8 27804:LMT,28800:AWST,32400:AWDT B174A0FBE4 C27A8C7BC b1F20 cD4100",
    "b20A0 c4440 b4440 c10E600 b2F40 c4A280 b2F40 c41F40 b2760 c7E540 b2A00 c5160 b39C0 c4EC0",
    "b39C0"],
   ["Indian/Antananarivo EAT-3 11404:LMT,10800:EAT,14400:EAST B191EEB2F4 C503FF2CC b2220"],
   ["Indian/Chagos <+06>-6 17380:LMT,18000:+05,21600:+06 B18979DC9C CA767E614"],
   ["Indian/Christmas <+07>-7 25372:LMT,25200:+07 B173118EE4"],
   ["Indian/Cocos <+0630>-6:30 23260:LMT,23400:+0630 B17C500BA4"],
   ["Indian/Comoro EAT-3 10384:LMT,10800:EAT B191EEB6F0"],
   ["Indian/Kerguelen <+05>-5 0:-00,18000:+05 b86EDE0"],
   ["Indian/Mahe <+04>-4 13308:LMT,14400:+04 B18979EC84"],
   ["Indian/Maldives <+05>-5 17640:LMT,17640:MMT,18000:+05 B156B18418 c2ACD20"],
   ["Indian/Mauritius <+04>-4 13800:LMT,14400:+04,18000:+05 B18979EA98 C8E86E7A8 b3CBC cDB2AC",
    "b39BC"],
   ["Indian/Mayotte EAT-3 10856:LMT,10800:EAT B191EEB518"],
   ["Indian/Reunion <+04>-4 13312:LMT,14400:+04 B191C71E80"],
   ["Pacific/Apia <+13>-13",
    "45184:LMT,-41216:LMT,-41400:-1130,-39600:-11,-36000:-10,50400:+14,46800:+13 B16E38AE00",
    "c9E4C0 D495C0838 e207E9E d468C e41A0 f2450 g2290 f4440 g46E0 f41A0 g46E0 f41A0 g46E0 f41A0",
    "g46E0 f41A0 g46E0 f41A0 g46E0 f4440 g46E0 f41A0 g46E0 f41A0 g46E0"],
   ["Pacific/Auckland NZST-12NZDT,M9.5.0,M4.1.0/3",
    "41944:LMT,41400:NZMT,45000:NZST,43200:NZST,46800:NZDT B141B231A8 C6EFD6640 b2C9C d5404 b39BE",
    "d4EC2 b39BE d4EC2 b39BE d4EC2 b3C5E d4C22 b3C5E d4C22 b4C1E d39C2 b4EBE d39C2 b4EBE d39C2",
    "b4EBE d39C2 b4EBE d39C2 b515E d3722 b515E d39C2 e123DDE d2A00 e5BE0 d31E0 e5940 d2F40 e5940",
    "d2F40 e5940 d2F40 e5940 d2F40 e5940 d2F40 e5940 d31E0 e5940 d2F40 e5940 d2F40 e5940 d2F40",
    "e5940 d2F40 e5940 d2F40 e5940 d31E0 e5940 d2F40 e5160 d3C60 e4C20 d3C60 e4C20 d3C60 e4C20",
    "d3F00 e4980 d3F00 e4980 d3F00 e4980 d3F00 e4C20 d3C60 e4C20 d3C60 e4C20 d3F00 e4980 d3F00",
    "e4980 d3F00 e4C20 d3C60 e4C20 d3C60 e4C20 d3F00 e4980 d3F00 e4980 d3F00 e4980 d3F00 e4980"],
   ["Pacific/Bougainville <+11>-11 37336:LMT,35312:PMMT,36000:+10,32400:+09,39600:+11 B156B13728",
    "C1C375268 D595591D0 c1AE24 e251B24"],
   ["Pacific/Chatham <+1245>-12:45<+1345>,M9.5.0/2:45,M4.1.0/3:45",
    "44028:LMT,44100:+1215,45900:+1245,49500:+1345 B141B22984 C91235238 dF6DE9 c2A00 d5BE0 c31E0",
    "d5940 c2F40 d5940 c2F40 d5940 c2F40 d5940 c2F40 d5940 c2F40 d5940 c31E0 d5940 c2F40 d5940",
    "c2F40 d5940 c2F40 d5940 c2F40 d5940 c2F40 d5940 c31E0 d5940 c2F40 d5160 c3C60 d4C20 c3C60",
    "d4C20 c3C60 d4C20 c3F00 d4980 c3F00 d4980 c3F00 d4980 c3F00 d4C20 c3C60 d4C20 c3C60 d4C20",
    "c3F00 d4980 c3F00 d4980 c3F00 d4C20 c3C60 d4C20 c3C60 d4C20 c3F00 d4980 c3F00 d4980 c3F00",
    "d4980 c3F00 d4980"],
   ["Pacific/Chuuk,Pacific/Yap <+10>-10 -49972:LMT,36428:LMT,36000:+10,32400:+09 B114DCA434",
    "c1DF5E0 D19DB7D2C c25204 dBDB9C c251A4"],
   ["Pacific/Easter <-06>6<-05>,M9.1.6/22,M4.1.6/22",
    "-26248:LMT,-26248:EMT,-25200:-07,-21600:-06,-18000:-05 B169822708 c16D3A0 D4409FBB8 c371C",
    "d5944 c2F3C d4984 c39BC d4EC4 c39BC d5164 c371C d4C24 c3C5C d5164 c371C d5164 c39BC d4EC4",
    "c39BC d4EC4 c39BC d5164 c371C d5164 c371C d5164 c39BC d4EC4 e8880 d39BC e4EC4 d39BC e5164",
    "d371C e5164 d371C e5164 d443C e4444 d39BC e4EC4 d39BC e5164 d371C e46E4 d419C e5164 d39BC",
    "e4EC4 d39BC e4EC4 d39BC e4EC4 d39BC e5164 d371C e5164 d3EFC e4984 d39BC e4984 d46DC e46E4",
    "d39BC e5164 d371C e5164 d371C e5164 d371C e5164 d39BC e4EC4 d39BC e4EC4 d39BC e5164 d371C",
    "e5164 d3EFC e4984 d39BC e4EC4 d419C e46E4 d4EBC e2764 d5E7C e2F44 d593C e31E4 d569C e31E4",
    "dE6FC e2224 d665C e2224 d665C e2224 d593C e39C4 d4EBC e39C4 d4EBC e39C4 d4EBC e3C64"],
   ["Pacific/Efate <+11>-11 40396:LMT,39600:+11,43200:+12 B192F0A7B4 C7483D68C b24C0 c51364 b443C",
    "c4444 b443C c46E4 b419C c46E4 b443C c4444 b443C c4444 b443C c4444 b443C c4444 b443C c46E4",
    "b2C9C c6664 b221C"],
   ["Pacific/Fakaofo <+13>-13 -41096:LMT,-39600:-11,46800:+13 B17E323A88 CD0C64428"],
   ["Pacific/Fiji <+12>-12 42944:LMT,43200:+12,46800:+13 B19A0E96C0 C9C276620 b2CA0 c5E80 b2A00",
    "c53820 b2CA0 c4EC0 b31E0 c56A0 b2220 c6660 b2220 c6900 b1F7C c6BA4 b1CE0 c6BA0 b1CE0 c6E40",
    "b1A40 c6E40 b1A40 c6E40 b1A40 c70E0 b17A0 c80A0 bA80"],
   ["Pacific/Funafuti <+12>-12 43012:LMT,43200:+12 B17E30F1FC"],
   ["Pacific/Galapagos <-06>6 -21504:LMT,-18000:-05,-21600:-06 B1B69F3180 C677477D0 b3B224 c19DC"],
   ["Pacific/Gambier <-09>9 -32388:LMT,-32400:-09 B1944B2D04"],
   ["Pacific/Guadalcanal <+11>-11 38388:LMT,39600:+11 B1944A188C"],
   ["Pacific/Guam ChST-10 -51660:LMT,34740:LMT,36000:GST,32400:+09,39600:GDT,36000:ChST",
    "B114DCAACC c1DF5E0 D4D016894 c16984 e7F984 cDA3C e38644 C2A4278C EC1F674 c1A3C e5944 c31DC",
    "e56A4 c31DC e13864 c1A3C e13444 C73F62C E1430D54 c2F3C fC7A3C"],
   ["Pacific/Honolulu,Pacific/Johnston HST10",
    "-37886:LMT,-37800:HST,-34200:HDT,-34200:HWT,-34200:HPT,-36000:HST B174DB55BE C4624D28A b804",
    "d4AA9C e1E0EA b1172 fE704"],
   ["Pacific/Kanton <+13>-13 0:-00,-43200:-12,-39600:-11,46800:+13 b805420 c168450 d828BC"],
   ["Pacific/Kiritimati <+14>-14 -37760:LMT,-38400:-1040,-36000:-10,50400:+14 B17E322D80",
    "C941EA980 D1CAF39A0"],
   ["Pacific/Kosrae <+11>-11 -47284:LMT,39116:LMT,39600:+11,32400:+09,36000:+10,43200:+12",
    "B114DC99B4 c1DF5E0 D19DB799C c25208 e995F8 d245A4 c251A4 fCEE18 cFA67C"],
   ["Pacific/Kwajalein <+12>-12 40160:LMT,39600:+11,36000:+10,32400:+09,-43200:-12,43200:+12",
    "B17E30FD20 C43B71DB0 d245A4 b18664 eDB958 fCC83C"],
   ["Pacific/Majuro <+12>-12 41088:LMT,39600:+11,32400:+09,36000:+10,43200:+12 B17E30F980",
    "C19DB8150 b25208 d995F8 c245A4 b183C4 eDBBF8"],
   ["Pacific/Marquesas <-0930>9:30 -33480:LMT,-34200:-0930 B1944B3148"],
   ["Pacific/Midway SST11 -42568:LMT,-39600:-11,-36000:-10,-39600:SST B17E324048 C683E2F68 d221C"],
   ["Pacific/Nauru <+12>-12 40060:LMT,41400:+1130,32400:+09,43200:+12 B1A3E21004 C28A9BEC4 b19ECA",
    "d11E1FE"],
   ["Pacific/Niue <-11>11 -40780:LMT,-40800:-1120,-39600:-11 B1DF9C4F4C C16054E14"],
   ["Pacific/Norfolk <+11>-11<+12>,M10.1.0,M4.1.0/3",
    "40312:LMT,40320:+1112,41400:+1130,45000:+1230,39600:+11,43200:+12 B17E30FC88 C5E0BE0F8",
    "D2CCDD1E8 c2F40 e15B7C0 f224A2"],
   ["Pacific/Noumea <+11>-11 39948:LMT,39600:+11,43200:+12 B192F0A974 C7BF0F5DC b1FDC c68A4 b203C",
    "c980AC b2220"],
   ["Pacific/Pago_Pago,Pacific/Samoa SST11 45432:LMT,-40968:LMT,-39600:SST B16E38AD08 c9E4C0"],
   ["Pacific/Palau <+09>-9 -54124:LMT,32276:LMT,32400:+09 B114DCB46C c1DF5E0"],
   ["Pacific/Pitcairn <-08>8 -31220:LMT,-30600:-0830,-28800:-08 B17E3213F4 CB70D1314"],
   ["Pacific/Pohnpei <+11>-11 -48428:LMT,37972:LMT,39600:+11,32400:+09,36000:+10 B114DC9E2C",
    "c1DF5E0 D19DB7524 c25208 e995F8 d245A4 c251A4"],
   ["Pacific/Port_Moresby <+10>-10 35320:LMT,35312:PMMT,36000:+10 B156B13F08 C1C374A88"],
   ["Pacific/Rarotonga <-10>10 48056:LMT,-38344:LMT,-37800:-1030,-34200:-0930,-36000:-10",
    "B17C47C1C8 c1C4100 D310ABA60 e29FC d5942 e2F3E d5942 e2F3E d5942 e31DE d5942 e2F3E d5942",
    "e2F3E d5942 e2F3E d5942 e2F3E d5942 e2F3E d5942 e31DE d5942 e2F3E d5942 e2F3E d5942 e2F3E"],
   ["Pacific/Saipan ChST-10 -51420:LMT,34980:LMT,32400:+09,36000:GST,39600:GDT,36000:ChST",
    "B114DCA9DC c1DF5E0 D51DB5C94 e801C4 dDA3C e38644 D2A4278C EC1F674 d1A3C e5944 d31DC e56A4",
    "d31DC e13864 d1A3C e13444 D73F62C E1430D54 d2F3C fC7A3C"],
   ["Pacific/Tahiti <-10>10 -35896:LMT,-36000:-10 B1944B3AB8"],
   ["Pacific/Tarawa <+12>-12 41524:LMT,43200:+12 B17E30F7CC"],
   ["Pacific/Tongatapu <+13>-13 44352:LMT,44400:+1220,46800:+13,50400:+14 B1D2408140 C1CCC43D0",
    "D48E967C0 c3D80 d56A0 c1F7C d6904 c1F7C d7E7E4 c1A40"],
   ["Pacific/Wake <+12>-12 39988:LMT,43200:+12 B17E30FDCC"],
   ["Pacific/Wallis <+12>-12 44120:LMT,43200:+12 B17E30EDA8"]]

end Inlay.Time.Zones
