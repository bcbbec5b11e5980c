/-!
# Zones of Africa

Records of time zones, as the zone reader takes them: the names of a zone, its
yearly rule, its local times and its changes.
-/

namespace Inlay.Time.Zones

def africaRecords : List (List String) :=
  [["Africa/Abidjan GMT0 -968:LMT,0:GMT B192E17748"],
   ["Africa/Accra GMT0 -52:LMT,0:GMT,1200:+0020,1800:+0030 B19A187934 C7A3204C B323070 C141B2B0",
    "BA0D250 C1406130 BA0D250 C1406130 BA0D250 C1406130 BA0D250 C141B2B0 BA0D250 C1406130 BA0D250",
    "C1406130 BA0D250 C1406130 BA0D250 C141B2B0 BA0D250 C1406130 BA0D250 C1406130 BA0D250",
    "C1406130 BA0D250 C141B2B0 BA0D250 C1406130 BA0D250 C1406130 BA0D250 C1406130 BA0D250",
    "C141B2B0 BA0D250 C1406130 BA0D250 C1406130 BA0D250 C1406130 BA0D250 C9F8A30 B142FAD0 C9E38B0",
    "B142FAD0 D320190 b2177E d27D2A b2DBE d5B22 b2DBE d5B82 b2DBE d5B22 b2DBE d5B22 b2DBE d5B22",
    "b2DBE"],
   ["Africa/Addis_Ababa EAT-3 9288:LMT,9320:ADMT,10800:EAT B143E2FEB8 C7CC7D8E0"],
   ["Africa/Algiers CET-1 732:LMT,561:PMT,0:WET,3600:WEST,3600:CET,7200:CEST B16BC48024 C2596B52B",
    "D9E728A1 c28E0 d4140 c49E0 d3960 c4F20 d36C0 c51C0 d3180 c5E80 d3540 c2520 d9C000 c1984",
    "e24C8 f2321C e467C f4204 e3E98 c90C0 e4FB64 c3DAFC d44C40 c39C0 d30004 e3EFC f39C4 e4444",
    "c9598 d4444 c46E4 e443C"],
   ["Africa/Asmara EAT-3 9332:LMT,9332:AMT,9320:ADMT,10800:EAT B143E2FE8C cAB360 D57293B8C"],
   ["Africa/Bamako,Africa/Timbuktu GMT0 -1920:LMT,0:GMT,-3600:-01 B192E17B00 C29AC2280 bE1424"],
   ["Africa/Bangui WAT-1 4460:LMT,3600:WAT B192E16214"],
   ["Africa/Banjul GMT0 -3996:LMT,-3996:BMT,-3600:-01,0:GMT B192E1831C cB5E60 D109FA874"],
   ["Africa/Bissau GMT0 -3740:LMT,-3600:-01,0:GMT b7298E4 c21B520"],
   ["Africa/Blantyre CAT-2 8400:LMT,8470:ZMT,8460:ZMT,7200:CAT B1920D1130 C58547BA D14B27C8A"],
   ["Africa/Brazzaville WAT-1 3668:LMT,3600:WAT B192E1652C"],
   ["Africa/Bujumbura CAT-2 7048:LMT,7200:CAT B16981A4F8"],
   ["Africa/Cairo EET-2EEST,M4.5.5/0,M10.5.4/24 7509:LMT,7200:EET,10800:EEST B17DB832AB C4AD66735",
    "b1D3C c4984 b39BC c49E4 b4E5C c3A84 b503C c3904 b503C c3E44 b4A9C c62A04 b35FC c4F84 b395C",
    "c4F88 b3904 c503C b3904 c4FDC b3904 c4FDC b3904 c4FDC b3904 c503C b3904 c4FDC b3904 c4FDC",
    "b3964 c4F7C b3964 c4FDC b3964 c4F7C b3964 c4F7C b3964 c4F7C b3964 c4FDC b3964 c4F7C b3964",
    "c4F7C b3964 c4F7C b3964 c4FDC b3964 c4F7C b3964 c4F7C b3964 c4F7C b3964 c4FDC b3964 c4F7C",
    "b3964 c6F5C b1984 c6A7C b1E64 c4FDC b3964 c4F7C b3964 c4F7C b3964 c4F7C b3964 c4FDC b3964",
    "c515C b3784 c4F7C b3964 c4F7C b3964 c4FDC b3964 c4F7C b3964 c4F7C b3964 c4E58 b39BC c4EC4",
    "b39BC c4EC4 b39BC c4EC4 b39BC c5164 b39BC c4EC4 b39BC c4EC4 b39BC c4EC4 b39BC c4EC4 b39BC",
    "c5164 b39BC c4EC4 b39BC c4EC4 b371C c5164 b31DC c56A4 b2F3C c5944 b2C9C c5E84 b269C cB44",
    "b7DC c1F024 bFBC cD24 b14FC c49804"],
   ["Africa/Casablanca <+00>0<+01>,0/0,J365/25 -1820:LMT,0:+00,3600:+01 B1964CDE9C C30AD1AE4",
    "b197C c24C4 b310DC c270C4 b347C c8E114 b2CCC c399C4 b19DC cE404 b227C c6664 b383C c5C44",
    "b17FC c30124 bF5FC cBFE24 b227C c6664 b1E5C c5F44 b24BC c5944 b2C9C c666C b1EC0 cBA0 bF60",
    "c4EC0 b1A40 cCC0 b1D40 c39C0 b21C0 cD20 b1FE0 c39C0 b1CE0 cD20 b24C0 c39C0 b1A40 cD20 b2A00",
    "c3720 b1500 cFC0 b2CA0 c3720 b1260 cD20 b78C0 cD20 b7620 cFC0 b7620 cD20 b7620 cFC0 b7620",
    "cD20 b78C0 cD20 b7620 cFC0 b7620 cD20 b78C0 cD20 b7620 cFC0 b7620 cD20 b7620 cFC0 b7620 cD20",
    "b78C0 cD20 b7620 cFC0 b7620 cD20 b7620 cFC0 b7620 cFC0 b7620 cD20 b7620 cFC0 b7620 cD20",
    "b78C0 cD20 b7620 cFC0 b7620 cD20 b7620 cFC0 b7620 cFC0 b7620 cD20 b7620 cFC0 b7620 cD20",
    "b78C0 cD20 b7620 cFC0 b7620 cD20 b7620 cFC0 b7620 cFC0 b7620 cD20 b7620 cFC0 b7620 cD20",
    "b78C0 cD20 b7620 cFC0 b7620 cD20 b7620 cFC0 b7620 cFC0 b7620 cD20 b7620 cFC0 b7620 cD20",
    "b78C0 cD20 b7620 cFC0 b7620 cD20 b7620 cFC0 b7620 cFC0 b7620 cD20 b7620 cFC0 b7620 cD20",
    "b78C0 cD20 b7620 cFC0 b7620 cD20 b7620 cFC0 b7620 cFC0 b7620 cD20 b7620 cFC0 b7620 cD20",
    "b78C0 cD20 b7620 cFC0 b7620 cD20 b7620 cFC0 b7620 cD20 b78C0 cD20 b7620 cFC0 b7620 cD20",
    "b78C0 cD20 b7620 cFC0"],
   ["Africa/Ceuta CET-1CEST,M3.5.0,M10.5.0/3 -1276:LMT,0:WET,3600:WEST,3600:CET,7200:CEST b6CB680",
    "c9479C b39BC c2F4C4 b4024 cD1FC b3F04 c46DC b41A4 c4980 b41A0 c14AE70 b2CCC c399C4 b19DC",
    "cE404 b227C c6664 b383C c5C44 b17FC d30124 e11704 d4440 e4440 d4440 e4440 d4440 e4440 d4440",
    "e4440 d46E0 e4440 d4440 e4440 d4440 e4440 d4440 e4440 d4440 e4440 d4440 e46E0"],
   ["Africa/Conakry GMT0 -3292:LMT,0:GMT,-3600:-01 B192E1805C C29AC1D24 bDD404"],
   ["Africa/Dakar GMT0 -4184:LMT,-3600:-01,0:GMT B192E183D8 C375471B8"],
   ["Africa/Dar_es_Salaam EAT-3 9428:LMT,10800:EAT,9900:+0245 B1B69EB8AC C1FF9AC24 b6F4E1"],
   ["Africa/Djibouti EAT-3 10356:LMT,10800:EAT B191EEB70C"],
   ["Africa/Douala WAT-1 2328:LMT,3600:WAT B192E16A68"],
   ["Africa/El_Aaiun <+00>0<+01>,0/0,J365/25 -3168:LMT,-3600:-01,0:+00,3600:+01 B1BC43D5E0",
    "C4F88BFB0 d65C c227C d6664 c383C d5C44 c17FC dFF544 c227C d6664 c1E5C d5F44 c24BC d5944",
    "c2C9C d666C c1EC0 dBA0 cF60 d4EC0 c1A40 dCC0 c1D40 d39C0 c21C0 dD20 c1FE0 d39C0 c1CE0 dD20",
    "c24C0 d39C0 c1A40 dD20 c2A00 d3720 c1500 dFC0 c2CA0 d3720 c1260 dD20 c78C0 dD20 c7620 dFC0",
    "c7620 dD20 c7620 dFC0 c7620 dD20 c78C0 dD20 c7620 dFC0 c7620 dD20 c78C0 dD20 c7620 dFC0",
    "c7620 dD20 c7620 dFC0 c7620 dD20 c78C0 dD20 c7620 dFC0 c7620 dD20 c7620 dFC0 c7620 dFC0",
    "c7620 dD20 c7620 dFC0 c7620 dD20 c78C0 dD20 c7620 dFC0 c7620 dD20 c7620 dFC0 c7620 dFC0",
    "c7620 dD20 c7620 dFC0 c7620 dD20 c78C0 dD20 c7620 dFC0 c7620 dD20 c7620 dFC0 c7620 dFC0",
    "c7620 dD20 c7620 dFC0 c7620 dD20 c78C0 dD20 c7620 dFC0 c7620 dD20 c7620 dFC0 c7620 dFC0",
    "c7620 dD20 c7620 dFC0 c7620 dD20 c78C0 dD20 c7620 dFC0 c7620 dD20 c7620 dFC0 c7620 dFC0",
    "c7620 dD20 c7620 dFC0 c7620 dD20 c78C0 dD20 c7620 dFC0 c7620 dD20 c7620 dFC0 c7620 dFC0",
    "c7620 dD20 c7620 dFC0 c7620 dD20 c78C0 dD20 c7620 dFC0 c7620 dD20 c7620 dFC0 c7620 dD20",
    "c78C0 dD20 c7620 dFC0 c7620 dD20 c78C0 dD20 c7620 dFC0"],
   ["Africa/Freetown GMT0 -3180:LMT,-3180:FMT,-3600:-01,-2400:-0040,0:GMT B15A758DEC c10D9A0",
    "D24872124 C9F80D0 DC9BA30 C1177950 DC9BA30 C1177950 DC9BA30 C118CAD0 DC9BA30 C1177950",
    "DC9BA30 C1177950 DC9BA30 C167E4D0 D794EB0 C54150 E43E58B0"],
   ["Africa/Gaborone CAT-2 6220:LMT,5400:SAST,7200:CAT,10800:CAST B1601A5534 C22275F34 d15B286",
    "c443C"],
   ["Africa/Harare CAT-2 7452:LMT,7200:CAT B18241AC64"],
   ["Africa/Johannesburg SAST-2 6720:LMT,5400:SAST,7200:SAST,10800:SAST B16D762640 C14CB8E28",
    "d152A06 c443C d4444 c443C"],
   ["Africa/Juba CAT-2 7588:LMT,7200:CAT,10800:CAST,10800:EAT B1B69EBFDC C49FA3D04 b3E9C c49E4",
    "b3EFC c4A44 b3EFC c4984 b3F5C c4924 b3FBC c48C4 b401C c4864 b40DC c47A4 b413C c49E4 b3EFC",
    "c4984 b3F5C c4924 b401C c4864 b407C c4804 b40DC c47A4 b413C c49E4 b3F5C c4924 b3FBC d7A014",
    "bB42CC"],
   ["Africa/Kampala EAT-3 7780:LMT,10800:EAT,9000:+0230,9900:+0245 B1B1E9C41C C2D3BBB4 d9A142",
    "b4D0FF"],
   ["Africa/Khartoum CAT-2 7808:LMT,7200:CAT,10800:CAST,10800:EAT B1B69EBF00 C49FA3DE0 b3E9C",
    "c49E4 b3EFC c4A44 b3EFC c4984 b3F5C c4924 b3FBC c48C4 b401C c4864 b40DC c47A4 b413C c49E4",
    "b3EFC c4984 b3F5C c4924 b401C c4864 b407C c4804 b40DC c47A4 b413C c49E4 b3F5C c4924 b3FBC",
    "d7A014 b9854C"],
   ["Africa/Kigali CAT-2 7216:LMT,7200:CAT B1BEEBF350"],
   ["Africa/Kinshasa WAT-1 3672:LMT,3600:WAT B1784811A8"],
   ["Africa/Lagos WAT-1 815:LMT,0:GMT,1800:+0030,3600:WAT B186A655D1 A5A4EF2F CA59E3D1 DAA7ABA7"],
   ["Africa/Libreville WAT-1 2268:LMT,3600:WAT B192E16AA4"],
   ["Africa/Lome GMT0 292:LMT,0:GMT B16F26AB5C"],
   ["Africa/Luanda WAT-1 3176:LMT,3124:LMT,3600:WAT B16D441B18 C259D4A58"],
   ["Africa/Lubumbashi CAT-2 6592:LMT,3600:WAT,7200:CAT B178480640 C2A3D3AB0"],
   ["Africa/Lusaka CAT-2 6788:LMT,7200:CAT B18241AEFC"],
   ["Africa/Malabo WAT-1 2108:LMT,0:GMT,3600:WAT B192E16B44 C61B9383C"],
   ["Africa/Maputo CAT-2 7818:LMT,7200:CAT B18D3DBA76"],
   ["Africa/Maseru SAST-2 6600:LMT,7200:SAST,10800:SAST B18241AFB8 C4C47A3C8 b443C"],
   ["Africa/Mbabane SAST-2 7464:LMT,7200:SAST B18241AC58"],
   ["Africa/Mogadishu EAT-3 10888:LMT,10800:EAT,9000:+0230 B170B749F8 C45E76958 bDE962"],
   ["Africa/Monrovia GMT0 -2588:LMT,-2588:MMT,-2670:MMT,0:GMT B15A758B9C c13E180 D636AEDD2"],
   ["Africa/Nairobi EAT-3 8836:LMT,9000:+0230,10800:EAT,9900:+0245 B18BFAB6FC C25EF085C bCF5E",
    "d3BD62 c2FC3F"],
   ["Africa/Ndjamena WAT-1 3612:LMT,3600:WAT,7200:WAST B192E16564 C7F7FF10C b36BC"],
   ["Africa/Niamey WAT-1 508:LMT,-3600:-01,0:GMT,3600:WAT B192E17184 C29AC3A0C dDD3FC"],
   ["Africa/Nouakchott GMT0 -3828:LMT,0:GMT,-3600:-01 B192E18274 C29AC1B0C bE5084"],
   ["Africa/Ouagadougou GMT0 -364:LMT,0:GMT B192E174EC"],
   ["Africa/Porto-Novo WAT-1 628:LMT,0:GMT,3600:WAT B192E1710C C29AC2C74"],
   ["Africa/Sao_Tome GMT0 1616:LMT,-2205:LMT,0:GMT,3600:WAT B15E37E230 C34A99150 d38B6E4 c88E0"],
   ["Africa/Tripoli EET-2 3164:LMT,3600:CET,7200:CEST,7200:EET B1A1EDA624 C3BC8EFEC b1D94 cF2AC",
    "b1F74 cEEE4 b22DC d19B04 bC4E5C c21C4 b449C c4444 b449C c44A4 b449C c4624 b42BC c4564 b443C",
    "c4384 b449C c44A4 b449C c4444 b449C d50A4 b36DDC c45C4 d449C b81488 c3420 d4EC0"],
   ["Africa/Tunis CET-1 2444:LMT,561:PMT,3600:CET,7200:CEST B15940F8F4 C381A3C5B D34DA3891 c5160",
    "d2520 cDC80 d39C4 c5948 d3720 c71C d304 c3CBC d4444 c4674 d420C c3E94 d10EAE4 c3720 d5220",
    "c3960 d52C20 c2B80 d4440 c4440 d5220 c3900 d7CDA0 c3904 d4264 c5160 d3720 c5160 d39C0 c4EC0"],
   ["Africa/Windhoek CAT-2 4104:LMT,5400:+0130,7200:SAST,10800:SAST,7200:CAT,3600:WAT B16D763078",
    "C14CB83F0 d152A06 c443C e19259C f223E0 e3EAC f4EBC e39C4 f515C e3724 f515C e39C4 f4EBC e39C4",
    "f4EBC e39C4 f4EBC e39C4 f4EBC e39C4 f515C e3724 f515C e39C4 f4EBC e39C4 f4EBC e39C4 f4EBC",
    "e39C4 f4EBC e39C4 f515C e39C4 f4EBC e39C4 f4EBC e39C4 f4EBC e39C4 f4EBC e39C4 f515C e3724",
    "f515C e39C4 f4EBC e39C4 f4EBC e39C4 f4EBC e39C4"]]

end Inlay.Time.Zones
