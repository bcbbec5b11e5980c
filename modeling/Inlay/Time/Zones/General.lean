/-!
# Zones without a place

Records of time zones, as the zone reader takes them: the names of a zone, its
yearly rule, its local times and its changes.
-/

namespace Inlay.Time.Zones

def generalRecords : List (List String) :=
  [["CET CET-1CEST,M3.5.0,M10.5.0/3 3600:CET,7200:CEST b74EA18 a3964 b49E8 a39C0 b4EC0 a39C0",
    "bB8680 a16260 b3720 a46E0 b4440 a4440 b4440 a3EA0 b10E0C0 a41A0 b46E0 a4440 b4440 a4440",
    "b46E0 a41A0 b4440 a4440 b4440 a4440 b4440 a4440 b4440 a46E0 b4440 a4440 b4440 a4440 b4440",
    "a4440 b4440 a4440 b4440 a4440 b4440 a46E0 b4440 a4440 b4440 a4440 b4440 a4440 b4440 a4440",
    "b4440 a4440 b46E0"],
   ["CST6CDT CST6CDT,M3.2.0,M11.1.0 -21600:CST,-18000:CDT,-18000:CWT,-18000:CPT b75F060 a4EBC",
    "b39C4 a4EBC cBED44 d1E0FC a1160 bB8BC4 a443C b4444 a443C b4444 a443C b4444 a443C b4444 a46DC",
    "b4444 a443C b4444 a443C b1A44 a6E3C b2CA4 a5BDC b4444 a46DC b41A4 a46DC b4444 a443C b4444",
    "a443C b4444 a443C b4444 a443C b4444 a46DC b41A4 a46DC b4444 a443C b4444 a443C b4444 a443C",
    "b3C64 a4C1C b3C64 a4EBC b39C4 a4EBC b39C4 a4EBC b3C64 a4C1C b3C64 a4C1C b3C64 a4EBC b39C4",
    "a4EBC b39C4 a4EBC b3C64 a4C1C b3C64 a4C1C b3C64 a4C1C b3C64 a4EBC b39C4 a4EBC b39C4 a4EBC",
    "b3C64 a4C1C b3C64 a4C1C b3C64 a4EBC b39C4 a4EBC b39C4 a4EBC b31E4"],
   ["EET EET-2EEST,M3.5.0/3,M10.5.0/4 7200:EET,10800:EEST b9582A4 a41A0 b46E0 a4440 b4440 a4440",
    "b46E0 a41A0 b4440 a4440 b4440 a4440 b4440 a4440 b4440 a46E0 b4440 a4440 b4440 a4440 b4440",
    "a4440 b4440 a4440 b4440 a4440 b4440 a46E0 b4440 a4440 b4440 a4440 b4440 a4440 b4440 a4440",
    "b4440 a4440 b46E0"],
   ["EST EST5 -18000:EST"],
   ["EST5EDT EST5EDT,M3.2.0,M11.1.0 -18000:EST,-14400:EDT,-14400:EWT,-14400:EPT b75F05C a4EBC",
    "b39C4 a4EBC cBED44 d1E100 a115C bB8BC4 a443C b4444 a443C b4444 a443C b4444 a443C b4444 a46DC",
    "b4444 a443C b4444 a443C b1A44 a6E3C b2CA4 a5BDC b4444 a46DC b41A4 a46DC b4444 a443C b4444",
    "a443C b4444 a443C b4444 a443C b4444 a46DC b41A4 a46DC b4444 a443C b4444 a443C b4444 a443C",
    "b3C64 a4C1C b3C64 a4EBC b39C4 a4EBC b39C4 a4EBC b3C64 a4C1C b3C64 a4C1C b3C64 a4EBC b39C4",
    "a4EBC b39C4 a4EBC b3C64 a4C1C b3C64 a4C1C b3C64 a4C1C b3C64 a4EBC b39C4 a4EBC b39C4 a4EBC",
    "b3C64 a4C1C b3C64 a4C1C b3C64 a4EBC b39C4 a4EBC b39C4 a4EBC b31E4"],
   ["Etc/GMT,Etc/GMT+0,Etc/GMT-0,Etc/GMT0,Etc/Greenwich,GMT GMT0 0:GMT"],
   ["Etc/GMT+1 <-01>1 -3600:-01"],
   ["Etc/GMT+10 <-10>10 -36000:-10"],
   ["Etc/GMT+11 <-11>11 -39600:-11"],
   ["Etc/GMT+12 <-12>12 -43200:-12"],
   ["Etc/GMT+2 <-02>2 -7200:-02"],
   ["Etc/GMT+3 <-03>3 -10800:-03"],
   ["Etc/GMT+4 <-04>4 -14400:-04"],
   ["Etc/GMT+5 <-05>5 -18000:-05"],
   ["Etc/GMT+6 <-06>6 -21600:-06"],
   ["Etc/GMT+7 <-07>7 -25200:-07"],
   ["Etc/GMT+8 <-08>8 -28800:-08"],
   ["Etc/GMT+9 <-09>9 -32400:-09"],
   ["Etc/GMT-1 <+01>-1 3600:+01"],
   ["Etc/GMT-10 <+10>-10 36000:+10"],
   ["Etc/GMT-11 <+11>-11 39600:+11"],
   ["Etc/GMT-12 <+12>-12 43200:+12"],
   ["Etc/GMT-13 <+13>-13 46800:+13"],
   ["Etc/GMT-14 <+14>-14 50400:+14"],
   ["Etc/GMT-2 <+02>-2 7200:+02"],
   ["Etc/GMT-3 <+03>-3 10800:+03"],
   ["Etc/GMT-4 <+04>-4 14400:+04"],
   ["Etc/GMT-5 <+05>-5 18000:+05"],
   ["Etc/GMT-6 <+06>-6 21600:+06"],
   ["Etc/GMT-7 <+07>-7 25200:+07"],
   ["Etc/GMT-8 <+08>-8 28800:+08"],
   ["Etc/GMT-9 <+09>-9 32400:+09"],
   ["Etc/UCT,Etc/UTC,Etc/Universal,Etc/Zulu,UTC UTC0 0:UTC"],
   ["Factory <-00>0 0:-00"],
   ["HST HST10 -36000:HST"],
   ["MET MET-1MEST,M3.5.0,M10.5.0/3 3600:MET,7200:MEST b74EA18 a3964 b49E8 a39C0 b4EC0 a39C0",
    "bB8680 a16260 b3720 a46E0 b4440 a4440 b4440 a3EA0 b10E0C0 a41A0 b46E0 a4440 b4440 a4440",
    "b46E0 a41A0 b4440 a4440 b4440 a4440 b4440 a4440 b4440 a46E0 b4440 a4440 b4440 a4440 b4440",
    "a4440 b4440 a4440 b4440 a4440 b4440 a46E0 b4440 a4440 b4440 a4440 b4440 a4440 b4440 a4440",
    "b4440 a4440 b46E0"],
   ["MST MST7 -25200:MST"],
   ["MST7MDT MST7MDT,M3.2.0,M11.1.0 -25200:MST,-21600:MDT,-21600:MWT,-21600:MPT b75F064 a4EBC",
    "b39C4 a4EBC cBED44 d1E0F8 a1164 bB8BC4 a443C b4444 a443C b4444 a443C b4444 a443C b4444 a46DC",
    "b4444 a443C b4444 a443C b1A44 a6E3C b2CA4 a5BDC b4444 a46DC b41A4 a46DC b4444 a443C b4444",
    "a443C b4444 a443C b4444 a443C b4444 a46DC b41A4 a46DC b4444 a443C b4444 a443C b4444 a443C",
    "b3C64 a4C1C b3C64 a4EBC b39C4 a4EBC b39C4 a4EBC b3C64 a4C1C b3C64 a4C1C b3C64 a4EBC b39C4",
    "a4EBC b39C4 a4EBC b3C64 a4C1C b3C64 a4C1C b3C64 a4C1C b3C64 a4EBC b39C4 a4EBC b39C4 a4EBC",
    "b3C64 a4C1C b3C64 a4C1C b3C64 a4EBC b39C4 a4EBC b39C4 a4EBC b31E4"],
   ["PST8PDT PST8PDT,M3.2.0,M11.1.0 -28800:PST,-25200:PDT,-25200:PWT,-25200:PPT b75F068 a4EBC",
    "b39C4 a4EBC cBED44 d1E0F4 a1168 bB8BC4 a443C b4444 a443C b4444 a443C b4444 a443C b4444 a46DC",
    "b4444 a443C b4444 a443C b1A44 a6E3C b2CA4 a5BDC b4444 a46DC b41A4 a46DC b4444 a443C b4444",
    "a443C b4444 a443C b4444 a443C b4444 a46DC b41A4 a46DC b4444 a443C b4444 a443C b4444 a443C",
    "b3C64 a4C1C b3C64 a4EBC b39C4 a4EBC b39C4 a4EBC b3C64 a4C1C b3C64 a4C1C b3C64 a4EBC b39C4",
    "a4EBC b39C4 a4EBC b3C64 a4C1C b3C64 a4C1C b3C64 a4C1C b3C64 a4EBC b39C4 a4EBC b39C4 a4EBC",
    "b3C64 a4C1C b3C64 a4C1C b3C64 a4EBC b39C4 a4EBC b39C4 a4EBC b31E4"],
   ["WET WET0WEST,M3.5.0/1,M10.5.0 0:WET,3600:WEST b9582A4 a41A0 b46E0 a4440 b4440 a4440 b46E0",
    "a41A0 b4440 a4440 b4440 a4440 b4440 a4440 b4440 a46E0 b4440 a4440 b4440 a4440 b4440 a4440",
    "b4440 a4440 b4440 a4440 b4440 a46E0 b4440 a4440 b4440 a4440 b4440 a4440 b4440 a4440 b4440",
    "a4440 b46E0"]]

end Inlay.Time.Zones
