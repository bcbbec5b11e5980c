/-!
# Zones of America

Records of time zones, as the zone reader takes them: the names of a zone, its
yearly rule, its local times and its changes.
-/

namespace Inlay.Time.Zones

def americaRecords : List (List String) :=
  [["America/Adak,America/Atka HST10HDT,M3.2.0,M11.1.0",
    "44002:LMT,-42398:LMT,-39600:NST,-36000:NWT,-36000:NPT,-39600:BST,-36000:BDT,-36000:AHST,-36000:HST,-32400:HDT",
    "B13FBDE2D1 C3DC45C8D D4E01EA72 e1E0E8 c1174 fB80DC g11BE8 f443C g4444 f443C g4444 f46DC",
    "g4444 f443C g4444 f443C g1A44 f6E3C g2CA4 f5BDC g4444 f46DC g41A4 f46DC g4444 f443C g4444",
    "f443C g4444 f443C g4444 f443C g4444 f46DC g41A4 h46DC iB98 j38A8 i443C j4444 i443C j4444",
    "i443C j3C64 i4C1C j3C64 i4EBC j39C4 i4EBC j39C4 i4EBC j3C64 i4C1C j3C64 i4C1C j3C64 i4EBC",
    "j39C4 i4EBC j39C4 i4EBC j3C64 i4C1C j3C64 i4C1C j3C64 i4C1C j3C64 i4EBC j39C4 i4EBC j39C4",
    "i4EBC j3C64 i4C1C j3C64 i4C1C j3C64 i4EBC j39C4 i4EBC j39C4 i4EBC j31E4"],
   ["America/Anchorage AKST9AKDT,M3.2.0,M11.1.0",
    "50424:LMT,-35976:LMT,-36000:AST,-32400:AWT,-32400:APT,-36000:AHST,-32400:AHDT,-32400:YST,-32400:AKST,-28800:AKDT",
    "B13FBDE2D1 C3DC44377 D4E01F578 e1E0EC c1170 fB80DC g11BE8 f443C g4444 f443C g4444 f46DC",
    "g4444 f443C g4444 f443C g1A44 f6E3C g2CA4 f5BDC g4444 f46DC g41A4 f46DC g4444 f443C g4444",
    "f443C g4444 f443C g4444 f443C g4444 f46DC g41A4 h46DC iB98 j38A8 i443C j4444 i443C j4444",
    "i443C j3C64 i4C1C j3C64 i4EBC j39C4 i4EBC j39C4 i4EBC j3C64 i4C1C j3C64 i4C1C j3C64 i4EBC",
    "j39C4 i4EBC j39C4 i4EBC j3C64 i4C1C j3C64 i4C1C j3C64 i4C1C j3C64 i4EBC j39C4 i4EBC j39C4",
    "i4EBC j3C64 i4C1C j3C64 i4C1C j3C64 i4EBC j39C4 i4EBC j39C4 i4EBC j31E4"],
   ["America/Anguilla AST4 -15136:LMT,-14400:AST B193321A20"],
   ["America/Antigua AST4 -14832:LMT,-18000:EST,-14400:AST B1933218F0 C490BA860"],
   ["America/Araguaina <-03>3 -11568:LMT,-10800:-03,-7200:-02 B196A55930 C2164D5B0 b43B0 c4564",
    "b437C c8EB04 b3300 c55E0 b2D5C c5B84 b2DBC c5B84 b21BC c5C3A4 b1F1C c7E04 b161C c5BE4 b21BC",
    "c5BE4 b2CFC c5BE4 b2D5C c974A4 b31DC c5404 b29FC c5EE4 b275C c5E84 b275C c6124 b2C9C c30904",
    "b2C9C c5944 b31DC c5704 b36BC c5404 b31DC c5404 b371C c5404 b31DC c5944 b2F3C c6124 b275C",
    "c52DA4 b2C9C"],
   ["America/Argentina/Buenos_Aires <-03>3 -14028:LMT,-15408:CMT,-14400:-04,-10800:-03,-7200:-02",
    "B172978D4C C2FF5E6E4 D13E8C310 c2D5C d49E4 c33BC d5BE4 c2CFC d5BE4 c2CFC d5BE4 c2CFC d5BE4",
    "c2D5C d5BE4 c2CFC d5BE4 c2CFC d5BE4 c2CFC d5BE4 c2D5C d2DC4 c82DC d2DC4 cF59C d1C24 c1457C",
    "d5044 c9185C d1C24 c1CDC d5584 c335C d5584 c335C d5584 c3F5C d4444 c46DC d4444 c443C d4444",
    "e24D1C d24BC e7CE04 d233C e5404 d347C e56A4 d31DC e56A4 d31DC e56A4 d347C e7ED24 d1CDC e5164",
    "d371C"],
   ["America/Argentina/Catamarca <-03>3 -15788:LMT,-15408:CMT,-14400:-04,-10800:-03,-7200:-02",
    "B17297942C C2FF5E004 D13E8C310 c2D5C d49E4 c33BC d5BE4 c2CFC d5BE4 c2CFC d5BE4 c2CFC d5BE4",
    "c2D5C d5BE4 c2CFC d5BE4 c2CFC d5BE4 c2CFC d5BE4 c2D5C d2DC4 c82DC d2DC4 cF59C d1C24 c1457C",
    "d5044 c9185C d1C24 c1CDC d5584 c335C d5584 c335C d5584 c3F5C d4444 c46DC d4444 c443C d4444",
    "e24D1C d24BC e7CE04 d233C e5404 d347C e56A4 c31DC e56A8 d31D8 e56A4 d347C c60304 d724 e1E2FC",
    "d1CDC"],
   ["America/Argentina/Cordoba <-03>3 -15408:LMT,-15408:CMT,-14400:-04,-10800:-03,-7200:-02",
    "B1729792B0 cDA460 D13E8C310 c2D5C d49E4 c33BC d5BE4 c2CFC d5BE4 c2CFC d5BE4 c2CFC d5BE4",
    "c2D5C d5BE4 c2CFC d5BE4 c2CFC d5BE4 c2CFC d5BE4 c2D5C d2DC4 c82DC d2DC4 cF59C d1C24 c1457C",
    "d5044 c9185C d1C24 c1CDC d5584 c335C d5584 c335C d5584 c3F5C d4444 c46DC d4444 c443C d4444",
    "e24D1C d24BC e7CE04 d233C e5404 d347C e56A4 c31DC e56A8 d31D8 e56A4 d347C e7ED24 d1CDC e5164",
    "d371C"],
   ["America/Argentina/Jujuy <-03>3 -15672:LMT,-15408:CMT,-14400:-04,-10800:-03,-7200:-02",
    "B1729793B8 C2FF5E078 D13E8C310 c2D5C d49E4 c33BC d5BE4 c2CFC d5BE4 c2CFC d5BE4 c2CFC d5BE4",
    "c2D5C d5BE4 c2CFC d5BE4 c2CFC d5BE4 c2CFC d5BE4 c2D5C d2DC4 c82DC d2DC4 cF59C d1C24 c1457C",
    "d5044 c9185C d1C24 c1CDC d5584 c335C d5584 c335C d5584 c3F5C d4444 c46DC d4444 c443C d4444",
    "e24D1C d24BC e7CE04 d233C e5404 c347C d5948 c347C e4C24 d3718 e56A4 d347C e7ED24 d1CDC"],
   ["America/Argentina/La_Rioja <-03>3 -16044:LMT,-15408:CMT,-14400:-04,-10800:-03,-7200:-02",
    "B17297952C C2FF5DF04 D13E8C310 c2D5C d49E4 c33BC d5BE4 c2CFC d5BE4 c2CFC d5BE4 c2CFC d5BE4",
    "c2D5C d5BE4 c2CFC d5BE4 c2CFC d5BE4 c2CFC d5BE4 c2D5C d2DC4 c82DC d2DC4 cF59C d1C24 c1457C",
    "d5044 c9185C d1C24 c1CDC d5584 c335C d5584 c335C d5584 c3F5C d4444 c46DC d4444 c443C d4444",
    "e24D1C d24BC e7CE04 d233C e5404 d347C e56A4 c311C d1928 e3E3C d31DC e56A4 d347C c60304 d724",
    "e1E2FC d1CDC"],
   ["America/Argentina/Mendoza <-03>3 -16516:LMT,-15408:CMT,-14400:-04,-10800:-03,-7200:-02",
    "B172979704 C2FF5DD2C D13E8C310 c2D5C d49E4 c33BC d5BE4 c2CFC d5BE4 c2CFC d5BE4 c2CFC d5BE4",
    "c2D5C d5BE4 c2CFC d5BE4 c2CFC d5BE4 c2CFC d5BE4 c2D5C d2DC4 c82DC d2DC4 cF59C d1C24 c1457C",
    "d5044 c9185C d1C24 c1CDC d5584 c335C d5584 c335C d5584 c3F5C d4444 c46DC d4444 c443C d4444",
    "e24D1C d24BC e7CE04 d233C e5404 c347C d5468 c335C d5584 c33BC e56A4 d3478 c5FFA4 d2F44",
    "e1BE3C d1CDC"],
   ["America/Argentina/Rio_Gallegos <-03>3 -16612:LMT,-15408:CMT,-14400:-04,-10800:-03,-7200:-02",
    "B172979764 C2FF5DCCC D13E8C310 c2D5C d49E4 c33BC d5BE4 c2CFC d5BE4 c2CFC d5BE4 c2CFC d5BE4",
    "c2D5C d5BE4 c2CFC d5BE4 c2CFC d5BE4 c2CFC d5BE4 c2D5C d2DC4 c82DC d2DC4 cF59C d1C24 c1457C",
    "d5044 c9185C d1C24 c1CDC d5584 c335C d5584 c335C d5584 c3F5C d4444 c46DC d4444 c443C d4444",
    "e24D1C d24BC e7CE04 d233C e5404 d347C e56A4 d31DC e56A4 d31DC e56A4 d347C c60304 d724 e1E2FC",
    "d1CDC"],
   ["America/Argentina/Salta <-03>3 -15700:LMT,-15408:CMT,-14400:-04,-10800:-03,-7200:-02",
    "B1729793D4 C2FF5E05C D13E8C310 c2D5C d49E4 c33BC d5BE4 c2CFC d5BE4 c2CFC d5BE4 c2CFC d5BE4",
    "c2D5C d5BE4 c2CFC d5BE4 c2CFC d5BE4 c2CFC d5BE4 c2D5C d2DC4 c82DC d2DC4 cF59C d1C24 c1457C",
    "d5044 c9185C d1C24 c1CDC d5584 c335C d5584 c335C d5584 c3F5C d4444 c46DC d4444 c443C d4444",
    "e24D1C d24BC e7CE04 d233C e5404 d347C e56A4 c31DC e56A8 d31D8 e56A4 d347C e7ED24 d1CDC"],
   ["America/Argentina/San_Juan <-03>3 -16444:LMT,-15408:CMT,-14400:-04,-10800:-03,-7200:-02",
    "B1729796BC C2FF5DD74 D13E8C310 c2D5C d49E4 c33BC d5BE4 c2CFC d5BE4 c2CFC d5BE4 c2CFC d5BE4",
    "c2D5C d5BE4 c2CFC d5BE4 c2CFC d5BE4 c2CFC d5BE4 c2D5C d2DC4 c82DC d2DC4 cF59C d1C24 c1457C",
    "d5044 c9185C d1C24 c1CDC d5584 c335C d5584 c335C d5584 c3F5C d4444 c46DC d4444 c443C d4444",
    "e24D1C d24BC e7CE04 d233C e5404 d347C e56A4 c311C d1928 e3E3C d31DC e56A4 d347C c602A4 d14A4",
    "e1D5DC d1CDC"],
   ["America/Argentina/San_Luis <-03>3 -15924:LMT,-15408:CMT,-14400:-04,-10800:-03,-7200:-02",
    "B1729794B4 C2FF5DF7C D13E8C310 c2D5C d49E4 c33BC d5BE4 c2CFC d5BE4 c2CFC d5BE4 c2CFC d5BE4",
    "c2D5C d5BE4 c2CFC d5BE4 c2CFC d5BE4 c2CFC d5BE4 c2D5C d2DC4 c82DC d2DC4 cF59C d1C24 c1457C",
    "d5044 c9185C d1C24 c1CDC d5584 c335C d5584 c335C d5584 c3F5C d4444 c46DC d4444 c443C d4444",
    "e24D1C d24BC e7CE04 d233C e5404 c383C d50A8 c335C d2284 c6F47C d14A4 e1D5DC d83C c1204 d5164",
    "c371C d5164"],
   ["America/Argentina/Tucuman <-03>3 -15652:LMT,-15408:CMT,-14400:-04,-10800:-03,-7200:-02",
    "B1729793A4 C2FF5E08C D13E8C310 c2D5C d49E4 c33BC d5BE4 c2CFC d5BE4 c2CFC d5BE4 c2CFC d5BE4",
    "c2D5C d5BE4 c2CFC d5BE4 c2CFC d5BE4 c2CFC d5BE4 c2D5C d2DC4 c82DC d2DC4 cF59C d1C24 c1457C",
    "d5044 c9185C d1C24 c1CDC d5584 c335C d5584 c335C d5584 c3F5C d4444 c46DC d4444 c443C d4444",
    "e24D1C d24BC e7CE04 d233C e5404 d347C e56A4 c31DC e56A8 d31D8 e56A4 d347C c60304 d484 e1E59C",
    "d1CDC e5164 d371C"],
   ["America/Argentina/Ushuaia <-03>3 -16392:LMT,-15408:CMT,-14400:-04,-10800:-03,-7200:-02",
    "B172979688 C2FF5DDA8 D13E8C310 c2D5C d49E4 c33BC d5BE4 c2CFC d5BE4 c2CFC d5BE4 c2CFC d5BE4",
    "c2D5C d5BE4 c2CFC d5BE4 c2CFC d5BE4 c2CFC d5BE4 c2D5C d2DC4 c82DC d2DC4 cF59C d1C24 c1457C",
    "d5044 c9185C d1C24 c1CDC d5584 c335C d5584 c335C d5584 c3F5C d4444 c46DC d4444 c443C d4444",
    "e24D1C d24BC e7CE04 d233C e5404 d347C e56A4 d31DC e56A4 d31DC e56A4 d347C c60244 d7E4 e1E2FC",
    "d1CDC"],
   ["America/Aruba AST4 -16824:LMT,-16200:-0430,-14400:AST B193191438 C637ABD10"],
   ["America/Asuncion <-03>3 -13840:LMT,-13840:AMT,-14400:-04,-10800:-03 B16981F690 c165900",
    "D4D13E4B0 cCD1C dCD84 c38FC d5044 c389C d5044 c389C d5044 c443C d44A4 c449C d44A4 c443C",
    "d44A4 c443C d44A4 c443C d44A4 c449C d44A4 c443C d44A4 c443C d44A4 c443C d44A4 c449C d44A4",
    "c443C d4C84 c3C5C d44A4 c443C d4684 c371C d51C4 c425C d4504 c37DC d5104 c377C d5164 c38FC",
    "d5224 c347C d5404 c371C d5164 c39BC d4EC4 c39BC d4EC4 c39BC d5164 c443C d3724 c515C d39C4",
    "c4EBC d4984 c371C d5164 c371C d5164 c371C d5404 c347C d5404 c347C d5404 c419C d41A4 c46DC",
    "d41A4 c46DC d4444 c3EFC d4984 c3EFC d4984 c3EFC d4984 c419C d46E4 c419C d46E4 c419C d4984",
    "c3EFC d4984 c3EFC d4984 c419C d46E4 c419C d46E4 c419C d46E4 c419C d4984"],
   ["America/Atikokan,America/Coral_Harbour EST5",
    "-21988:LMT,-21600:CST,-18000:CDT,-18000:CWT,-18000:CPT,-18000:EST B172E96964 C2BCA1D1C b497C",
    "cBBAFC dBAC8 e1E0FC f1160"],
   ["America/Bahia <-03>3 -9244:LMT,-10800:-03,-7200:-02 B196A5501C C2164DEC4 b43B0 c4564 b437C",
    "c8EB04 b3300 c55E0 b2D5C c5B84 b2DBC c5B84 b21BC c5C3A4 b1F1C c7E04 b161C c5BE4 b21BC c5BE4",
    "b2CFC c5BE4 b2D5C c974A4 b31DC c5404 b29FC c5EE4 b275C c5E84 b275C c6124 b2C9C c5E84 b2C9C",
    "c5BE4 b29FC c6124 b24BC c6124 b2F3C c5944 b2F3C c5944 b2C9C c5944 b31DC c5704 b36BC c5404",
    "b31DC c5404 b371C c5404 b31DC c5944 b2F3C c6124 b275C c4A284 b31DC"],
   ["America/Bahia_Banderas CST6 -25260:LMT,-25200:MST,-21600:CST,-21600:MDT,-18000:CDT b77F2DC",
    "c2E8C0 b1D63C d3E44 b39BC c44A4 b5621C d1CDE2C b4C1C d3C64 b4C1C d3C64 b4C1C d3C64 b4EBC",
    "d39C4 b4EBC d46E4 b371C d46E4 b4C1C d3C64 b4C1C d3C64 b4EBC d39C4 b4EBC d39C4 b4EBC d39C4",
    "b4EBC d3C64 b4C1C d3C64 b4C1C e3C64 c4EB8 e39C4 c4EBC e39C4 c4EBC e3C64 c4C1C e3C64 c4C1C",
    "e3C64 c4C1C e3C64 c4EBC e39C4 c4EBC e39C4 c4EBC e3C64 c4C1C e3C64 c4C1C e3C64 c4EBC e39C4",
    "c4EBC"],
   ["America/Barbados AST4 -14309:LMT,-14400:AST,-10800:ADT,-12600:-0330 B1923B8E65 C39A3226B",
    "b3244 c5B7C b2F44 d51BC b3964 c118620 b29FC c4984 b3EFC c4984 b3EFC c4C24 b3B3C"],
   ["America/Belem <-03>3 -11636:LMT,-10800:-03,-7200:-02 B196A55974 C2164D56C b43B0 c4564 b437C",
    "c8EB04 b3300 c55E0 b2D5C c5B84 b2DBC c5B84 b21BC c5C3A4 b1F1C c7E04 b161C c5BE4 b21BC c5BE4",
    "b2CFC c5BE4 b2D5C c974A4 b31DC c5404 b29FC c5EE4 b275C"],
   ["America/Belize CST6 -21168:LMT,-21600:CST,-19800:-0530,-18000:CWT,-18000:CPT,-18000:CDT",
    "B19359BEB0 CC406230 b2F3E c5942 b31DE c56A2 b31DE c56A2 b31DE c5942 b2F3E c5942 b2F3E c5942",
    "b31DE c56A2 b31DE c56A2 b31DE c56A2 b31DE c5942 b2F3E c5942 b2F3E c5942 b31DE c56A2 b31DE",
    "c56A2 b31DE c5942 b2F3E c5942 b2F3E c5942 b2F3E c5942 b31DE c56A2 b31DE c56A2 b31DE c5942",
    "b2F3E c5942 b2F3E c5942 b31DE d31E2 e1ACE4 b2E38 cF6C4 b31DE c56A2 b31DE c56A2 b31DE c5942",
    "b2F3E c5942 b2F3E c5942 b31DE c56A2 b31DE c56A2 b31DE c56A2 b31DE c5942 b2F3E c5942 b2F3E",
    "c5942 b31DE c56A2 b31DE c56A2 b31DE c5942 b2F3E c5942 b2F3E c5942 b2F3E c5942 b31DE c56A2",
    "b31DE c56A2 b31DE c5942 b2F3E f31C82 b18BC f4BCC4 b14FC"],
   ["America/Blanc-Sablon AST4 -13708:LMT,-14400:AST,-10800:ADT,-10800:AWT,-10800:APT B15E381E0C",
    "C407B4C54 b497C dC75C4 e1E104 b1158"],
   ["America/Boa_Vista <-04>4 -14560:LMT,-14400:-04,-10800:-03 B196A564E0 C2164D810 b43B0 c4564",
    "b437C c8EB04 b3300 c55E0 b2D5C c5B84 b2DBC c5B84 b21BC c5C3A4 b1F1C c7E04 b161C c5BE4 b21BC",
    "c5BE4 b2CFC c5BE4 b2D5C c974A4 b31DC c5404 b29FC c5EE4 b275C c63C04 b371C c5404 b29C"],
   ["America/Bogota <-05>5 -17776:LMT,-17776:BMT,-18000:-05,-14400:-04 B15E9719F0 c106C20",
    "D91AB1DE0 c68FC"],
   ["America/Boise MST7MDT,M3.2.0,M11.1.0",
    "-27889:LMT,-28800:PST,-25200:PDT,-25200:MST,-21600:MWT,-21600:MPT,-21600:MDT b638DF0 c126278",
    "b4EBC c39C4 b4EBC d1E5A4 eA079C f1E0F8 d1164 gB8BC4 d443C g4444 d443C g4444 d443C g4444",
    "d443C g4444 d46DC g4444 d443C g4444 d443C g24C4 d63BC g2CA4 d5BDC g4444 d46DC g41A4 d46DC",
    "g4444 d443C g4444 d443C g4444 d443C g4444 d443C g4444 d46DC g41A4 d46DC g4444 d443C g4444",
    "d443C g4444 d443C g3C64 d4C1C g3C64 d4EBC g39C4 d4EBC g39C4 d4EBC g3C64 d4C1C g3C64 d4C1C",
    "g3C64 d4EBC g39C4 d4EBC g39C4 d4EBC g3C64 d4C1C g3C64 d4C1C g3C64 d4C1C g3C64 d4EBC g39C4",
    "d4EBC g39C4 d4EBC g3C64 d4C1C g3C64 d4C1C g3C64 d4EBC g39C4 d4EBC g39C4 d4EBC g31E4"],
   ["America/Cambridge_Bay MST7MDT,M3.2.0,M11.1.0",
    "0:-00,-25200:MST,-21600:MWT,-21600:MPT,-21600:MDT,-21600:CST,-18000:CDT,-18000:EST b76E0A0",
    "cBD444 d1E0F8 b1164 eE38E4 b443C e4444 b443C e4444 b443C e4444 b443C e4444 b46DC e41A4 b46DC",
    "e4444 b443C e4444 b443C e4444 b443C e4444 b443C e4444 b46DC e41A4 b46DC e4444 b443C e4444",
    "b443C e4444 b443C e3C64 b4C1C e3C64 b4EBC e39C4 b4EBC e39C4 b4EBC e3C64 b4C1C e3C64 b4C1C",
    "e3C64 b4EBC e39C4 b4EBC e39C4 b4EBC e3C64 b4C1C e3C64 b4C1C e3C64 b4C1C e3C64 f4EBC g39C0",
    "h4EBC f298 e3730 b4EBC e3C64 b4C1C e3C64 b4C1C e3C64 b4EBC e39C4 b4EBC e39C4 b4EBC e31E4"],
   ["America/Campo_Grande <-04>4 -13108:LMT,-14400:-04,-10800:-03 B196A55F34 C2164DDBC b43B0",
    "c4564 b437C c8EB04 b3300 c55E0 b2D5C c5B84 b2DBC c5B84 b21BC c5C3A4 b1F1C c7E04 b161C c5BE4",
    "b21BC c5BE4 b2CFC c5BE4 b2D5C c974A4 b31DC c5404 b29FC c5EE4 b275C c5E84 b275C c6124 b2C9C",
    "c5E84 b2C9C c5BE4 b29FC c6124 b24BC c6124 b2F3C c5944 b2F3C c5944 b2C9C c5944 b31DC c5704",
    "b36BC c5404 b31DC c5404 b371C c5404 b31DC c5944 b2F3C c6124 b275C c5BE4 b2C9C c61E4 b293C",
    "c5944 b2F3C c6124 b29FC c56A4 b2F3C c5BE4 b2C9C c5BE4 b2F3C c5944 b2F3C c5944 b31DC c5944",
    "b2C9C c5BE4 b2C9C c5BE4 b2F3C c5944 b2F3C c5944 b2F3C c5944 b2F3C c6124 b275C"],
   ["America/Cancun EST5 -20824:LMT,-21600:CST,-18000:EST,-18000:CDT,-14400:EDT b77F2D8 c2017E8",
    "b8C34 d717CC b4C1C d3C64 c4C1C e3C60 d2C9C b1F84 d3C64 b4EBC d39C4 b4EBC d46E4 b371C d46E4",
    "b4C1C d3C64 b4C1C d3C64 b4EBC d39C4 b4EBC d39C4 b4EBC d39C4 b4EBC d3C64 b4C1C d3C64 b4C1C",
    "d3C64 b4EBC d39C4 b4EBC d39C4 b4EBC d3C64 b4C1C d3C64 b4C1C c24C4"],
   ["America/Caracas <-04>4 -16064:LMT,-16060:CMT,-16200:-0430,-14400:-04 B16981FF40 C299711FC",
    "D637AC00C c16F8CA d47DC0"],
   ["America/Cayenne <-03>3 -12560:LMT,-14400:-04,-10800:-03 B191EF1090 C69CF0A30"],
   ["America/Cayman EST5 -19532:LMT,-18430:KMT,-18000:EST B169820CCC C29888D32"],
   ["America/Chicago CST6CDT,M3.2.0,M11.1.0",
    "-21036:LMT,-21600:CST,-18000:CDT,-18000:EST,-18000:CWT,-18000:CPT b638DE8 c126278 b4EBC",
    "c39C4 b4EBC c56A4 b347C c3724 b515C c4444 b371C c5164 b39BC c4EC4 b39BC c4EC4 b39BC c4EC4",
    "b39BC c4EC4 b39BC c5164 b39BC c4EC4 b39BC c4EC4 b39BC c4EC4 b39BC c4EC4 b39BC c5164 b371C",
    "c5164 b39BC c4EC4 b39BC d39C4 b611C c3C64 b39BC c4EC4 b39BC c5164 b371C c5164 b39BC c4EC4",
    "b39BC e3244 f1E0FC b1160 c4EC4 b39BC c4EC4 b39BC c4EC4 b39BC c4EC4 b39BC c5164 b371C c5164",
    "b39BC c4EC4 b39BC c4EC4 b39BC c4EC4 b39BC c4EC4 b46DC c4444 b443C c4444 b443C c4444 b443C",
    "c4444 b443C c4444 b46DC c4444 b443C c4444 b443C c4444 b443C c4444 b443C c4444 b46DC c41A4",
    "b46DC c4444 b443C c4444 b443C c4444 b443C c4444 b443C c4444 b46DC c4444 b443C c4444 b443C",
    "c1A44 b6E3C c2CA4 b5BDC c4444 b46DC c41A4 b46DC c4444 b443C c4444 b443C c4444 b443C c4444",
    "b443C c4444 b46DC c41A4 b46DC c4444 b443C c4444 b443C c4444 b443C c3C64 b4C1C c3C64 b4EBC",
    "c39C4 b4EBC c39C4 b4EBC c3C64 b4C1C c3C64 b4C1C c3C64 b4EBC c39C4 b4EBC c39C4 b4EBC c3C64",
    "b4C1C c3C64 b4C1C c3C64 b4C1C c3C64 b4EBC c39C4 b4EBC c39C4 b4EBC c3C64 b4C1C c3C64 b4C1C",
    "c3C64 b4EBC c39C4 b4EBC c39C4 b4EBC c31E4"],
   ["America/Chihuahua CST6 -25460:LMT,-25200:MST,-21600:CST,-21600:MDT,-18000:CDT b77F2DC c2E8C0",
    "b1D63C d3E44 b39BC c44A4 e224044 c4C1C e3C64 c4C1C d3C68 b4C1C d3C64 b4EBC d39C4 b4EBC d46E4",
    "b371C d46E4 b4C1C d3C64 b4C1C d3C64 b4EBC d39C4 b4EBC d39C4 b4EBC d39C4 b4EBC d3C64 b4C1C",
    "d3C64 b4C1C d3C64 b4EBC d39C4 b4EBC d39C4 b4EBC d3C64 b4C1C d3C64 b4C1C d3C64 b4C1C d3C64",
    "b4EBC d39C4 b4EBC d39C4 b4EBC d3C64 b4C1C d3C64 b4C1C d3C64 b4EBC d39C4 c4EBC"],
   ["America/Ciudad_Juarez MST7MDT,M3.2.0,M11.1.0",
    "-25556:LMT,-25200:MST,-21600:CST,-21600:MDT,-18000:CDT b77F2DC c2E8C0 b1D63C d3E44 b39BC",
    "c44A4 e224044 c4C1C e3C64 c4C1C d3C68 b4C1C d3C64 b4EBC d39C4 b4EBC d46E4 b371C d46E4 b4C1C",
    "d3C64 b4C1C d3C64 b4EBC d39C4 b4EBC d39C4 b4EBC d39C4 b4EBC d3C64 b4C1C d3C64 b4C1C d3484",
    "b593C d2F44 b593C d2F44 b593C d2F44 b593C d2F44 b593C d2F44 b593C d31E4 b593C d2F44 b593C",
    "d2F44 b593C d2F44 b593C d2F44 b593C d31E4 b593C d2F44 c569C bB98"],
   ["America/Costa_Rica CST6 -20173:LMT,-20173:SJMT,-21600:CST,-18000:CDT B169820F4D c109B00",
    "D6D4E3313 c24BC d63C4 c24BC d5B084 c3D1C d4B64 c155C"],
   ["America/Coyhaique <-03>3 -17296:LMT,-16965:SMT,-18000:-05,-14400:-04,-10800:-03 B169820410",
    "C25A92835 BC2C9E0B D41FFD75 B1838EFB DF5E0605 C118C57B d3964 c4F7C d3964 c4F7C d3964 c4F7C",
    "d3964 c4FDC d3964 c536FC d16E4 c27EFC d1320 eB7A80 d371C e5944 d2F3C e4984 d39BC e4EC4 d39BC",
    "e5164 d371C e4C24 d3C5C e5164 d371C e5164 d39BC e4EC4 d39BC e4EC4 d39BC e5164 d371C e5164",
    "d371C e5164 d39BC e4EC4 d39BC e4EC4 d39BC e4EC4 d39BC e5164 d371C e5164 d371C e5164 d443C",
    "e4444 d39BC e4EC4 d39BC e5164 d371C e46E4 d419C e5164 d39BC e4EC4 d39BC e4EC4 d39BC e4EC4",
    "d39BC e5164 d371C e5164 d3EFC e4984 d39BC e4984 d46DC e46E4 d39BC e5164 d371C e5164 d371C",
    "e5164 d371C e5164 d39BC e4EC4 d39BC e4EC4 d39BC e5164 d371C e5164 d3EFC e4984 d39BC e4EC4",
    "d419C e46E4 d4EBC e2764 d5E7C e2F44 d593C e31E4 d569C e31E4 dE6FC e2224 d665C e2224 d665C",
    "e2224 d593C e39C4 d4EBC e39C4 d4EBC e39C4 d4EBC e3C64 d4C1C e39C4 d515C e39C4"],
   ["America/Creston MST7 -27964:LMT,-25200:MST,-28800:PST B15E3855BC C3D98DAB4 bE464"],
   ["America/Cuiaba <-04>4 -13460:LMT,-14400:-04,-10800:-03 B196A56094 C2164DC5C b43B0 c4564",
    "b437C c8EB04 b3300 c55E0 b2D5C c5B84 b2DBC c5B84 b21BC c5C3A4 b1F1C c7E04 b161C c5BE4 b21BC",
    "c5BE4 b2CFC c5BE4 b2D5C c974A4 b31DC c5404 b29FC c5EE4 b275C c5E84 b275C c6124 b2C9C c5E84",
    "b2C9C c5BE4 b29FC c6124 b24BC c6124 b2F3C c5944 b2F3C c5944 b2C9C c5944 b31DC c5704 b36BC",
    "c5404 b31DC c5404 b371C c5404 b31DC c5944 b2F3C c6124 b275C cEA64 b293C c5944 b2F3C c6124",
    "b29FC c56A4 b2F3C c5BE4 b2C9C c5BE4 b2F3C c5944 b2F3C c5944 b31DC c5944 b2C9C c5BE4 b2C9C",
    "c5BE4 b2F3C c5944 b2F3C c5944 b2F3C c5944 b2F3C c6124 b275C"],
   ["America/Curacao,America/Kralendijk,America/Lower_Princes AST4",
    "-16547:LMT,-16200:-0430,-14400:AST B193191323 C637ABE25"],
   ["America/Danmarkshavn GMT0 -4480:LMT,-10800:-03,-7200:-02,0:GMT B19B7B2E00 C77CD3350 b4190",
    "c4440 b4440 c4440 b4440 c4440 b4440 c4440 b46E0 c4440 b4440 c4440 b4440 c4440 b4440 c4440",
    "b4440 c4440 b4440 c4440 b46E0 c4440 b4440 c4440 b4440 c4440 b4440 c4440 b4440 c4440 b4440",
    "d2528"],
   ["America/Dawson MST7",
    "-33460:LMT,-32400:YST,-28800:YDT,-28800:YWT,-28800:YPT,-25200:YDDT,-28800:PST,-25200:PDT,-25200:MST",
    "B17D8173B4 C21323CFC b497C c4EC4 b3BF4 dBEB0C e1E0F0 b116C fA781C b46E0 g446A0 h379E4 g443C",
    "h4444 g443C h4444 g46DC h41A4 g46DC h4444 g443C h4444 g443C h4444 g443C h3C64 g4C1C h3C64",
    "g4EBC h39C4 g4EBC h39C4 g4EBC h3C64 g4C1C h3C64 g4C1C h3C64 g4EBC h39C4 g4EBC h39C4 g4EBC",
    "h3C64 g4C1C h3C64 g4C1C h3C64 g4C1C h3C64 g4EBC h39C4 g4EBC h39C4 g4EBC h3C64 g4C1C h3C64",
    "g4C1C h3C64 g4EBC h39C4 g4EBC h39C4 g4EBC h31E4 g593C h2F44 g593C h2F44 g593C h31E4 g593C",
    "h2F44 g593C h2F44 g593C h2F44 g593C h2F44 g593C h2F44 g593C h31E4 g593C h2F44 g593C h2F44",
    "g593C h2F44 g593C h2F44 i5934"],
   ["America/Dawson_Creek MST7 -28856:LMT,-28800:PST,-25200:PDT,-25200:PWT,-25200:PPT,-25200:MST",
    "B15E385938 C407B4968 b497C dC75C4 e1E0F4 b1168 cD744 b39BC c4EC4 b39BC c4EC4 b39BC c5164",
    "b371C c5164 b39BC c4EC4 b39BC c4EC4 b39BC c4EC4 b39BC c4EC4 b39BC c5164 b39BC c4EC4 b39BC",
    "c4EC4 b39BC c4EC4 b39BC c4EC4 b39BC c5164 b371C c5164 b443C c4444 b443C c4444 b443C c4444",
    "b46DC c41A4 b46DC c4444 b443C c4444 b443C c4444 b443C c4444 b443C c4444 b46DC c4444 f2DBC"],
   ["America/Denver,America/Shiprock MST7MDT,M3.2.0,M11.1.0",
    "-25196:LMT,-25200:MST,-21600:MDT,-21600:MWT,-21600:MPT b638DEC c126278 b4EBC c39C4 b4EBC",
    "c39C4 b515C c3724 b14FC dB1604 e1E0F8 b1164 cA7824 b46DC c41A4 b46DC c4444 b443C c4444 b443C",
    "c4444 b443C c4444 b443C c4444 b46DC c4444 b443C c4444 b443C c1A44 b6E3C c2CA4 b5BDC c4444",
    "b46DC c41A4 b46DC c4444 b443C c4444 b443C c4444 b443C c4444 b443C c4444 b46DC c41A4 b46DC",
    "c4444 b443C c4444 b443C c4444 b443C c3C64 b4C1C c3C64 b4EBC c39C4 b4EBC c39C4 b4EBC c3C64",
    "b4C1C c3C64 b4C1C c3C64 b4EBC c39C4 b4EBC c39C4 b4EBC c3C64 b4C1C c3C64 b4C1C c3C64 b4C1C",
    "c3C64 b4EBC c39C4 b4EBC c39C4 b4EBC c3C64 b4C1C c3C64 b4C1C c3C64 b4EBC c39C4 b4EBC c39C4",
    "b4EBC c31E4"],
   ["America/Detroit EST5EDT,M3.2.0,M11.1.0",
    "-19931:LMT,-21600:CST,-18000:EST,-14400:EWT,-14400:EPT,-14400:EDT B185B8075B C137F71A5",
    "dE4E9C e1E100 c115C f15FC4 c39BC F2332EEAC CB4AB54 f4444 c443C f268E4 c443C f1A44 c6E3C",
    "f4444 c443C f4444 c46DC f41A4 c46DC f4444 c443C f4444 c443C f4444 c443C f4444 c443C f4444",
    "c46DC f41A4 c46DC f4444 c443C f4444 c443C f4444 c443C f3C64 c4C1C f3C64 c4EBC f39C4 c4EBC",
    "f39C4 c4EBC f3C64 c4C1C f3C64 c4C1C f3C64 c4EBC f39C4 c4EBC f39C4 c4EBC f3C64 c4C1C f3C64",
    "c4C1C f3C64 c4C1C f3C64 c4EBC f39C4 c4EBC f39C4 c4EBC f3C64 c4C1C f3C64 c4C1C f3C64 c4EBC",
    "f39C4 c4EBC f39C4 c4EBC f31E4"],
   ["America/Dominica AST4 -14736:LMT,-14400:AST B191EF194C"],
   ["America/Edmonton,America/Yellowknife MST7MDT,M3.2.0,M11.1.0",
    "-27232:LMT,-25200:MST,-21600:MDT,-21600:MWT,-21600:MPT B188D9B3E0 C15D9E0B0 b497C c3F04",
    "b107C c7D44 b46DC c41A4 b39BC c5164 b371C c5164 b39BC d9D324 e1E0F8 b1164 cD744 b39BC cD27E4",
    "b443C c4444 b443C c4444 b443C c4444 b443C c4444 b46DC c41A4 b46DC c4444 b443C c4444 b443C",
    "c4444 b443C c4444 b443C c4444 b46DC c41A4 b46DC c4444 b443C c4444 b443C c4444 b443C c3C64",
    "b4C1C c3C64 b4EBC c39C4 b4EBC c39C4 b4EBC c3C64 b4C1C c3C64 b4C1C c3C64 b4EBC c39C4 b4EBC",
    "c39C4 b4EBC c3C64 b4C1C c3C64 b4C1C c3C64 b4C1C c3C64 b4EBC c39C4 b4EBC c39C4 b4EBC c3C64",
    "b4C1C c3C64 b4C1C c3C64 b4EBC c39C4 b4EBC c39C4 b4EBC c31E4"],
   ["America/Eirunepe <-05>5 -16768:LMT,-18000:-05,-14400:-04 B196A56D80 C2164DD80 b43B0 c4564",
    "b437C c8EB04 b3300 c55E0 b2D5C c5B84 b2DBC c5B84 b21BC c5C3A4 b1F1C c7E04 b161C c5BE4 b21BC",
    "c5BE4 b2CFC c5BE4 b2D5C c974A4 b31DC c5404 b29FC c5EE4 b275C c30BA4 b2F3C c7AC44 b2E0DC"],
   ["America/El_Salvador CST6 -21408:LMT,-21600:CST,-18000:CDT B1A3D08B20 C7CC536C0 b371C c5164",
    "b371C"],
   ["America/Ensenada,America/Santa_Isabel,America/Tijuana PST8PDT,M3.2.0,M11.1.0",
    "-28084:LMT,-25200:MST,-28800:PST,-25200:PDT,-25200:PWT,-25200:PPT b77F2DC c111C0 b1D704",
    "c1D63C d3364 c443C e5A724 f1C53C c22A0 d14704 c6A7C dB104 c36BC d516C c39BC d4EC4 c39BC",
    "d4EC0 c39C0 d4EC0 c39C0 d4EC0 c39C0 d5160 c39C0 d4EC0 c39C0 d4EC0 c39C0 d4EC0 c39C0 d4EC0",
    "c39C0 d5160 c3720 d5160 c4440 d4440 c4440 d4440 c4440 d4440 c46E0 d41A0 c46E0 d4444 c443C",
    "d4444 c443C d4444 c443C d4444 c443C d4444 c46DC d4444 c443C d4444 c443C d1A44 c6E3C d2CA4",
    "c5BDC d4444 c46DC d41A4 c46DC d4444 c443C d4444 c443C d4444 c443C d4444 c443C d4444 c46DC",
    "d41A4 c46DC d4444 c443C d4444 c443C d4444 c443C d3C64 c4C1C d3C64 c4EBC d39C4 c4EBC d39C4",
    "c4EBC d3C64 c4C1C d3C64 c4C1C d3C64 c4EBC d39C4 c4EBC d39C4 c4EBC d3C64 c4C1C d3C64 c4C1C",
    "d3C64 c4C1C d3C64 c4EBC d39C4 c4EBC d39C4 c4EBC d3C64 c4C1C d3C64 c4C1C d3C64 c4EBC d39C4",
    "c4EBC d39C4 c4EBC d39C4 c4EBC d3C64 c4C1C d3C64 c4C1C d3484"],
   ["America/Fort_Nelson MST7 -29447:LMT,-28800:PST,-25200:PDT,-25200:PWT,-25200:PPT,-25200:MST",
    "B15E385B87 C407B4719 b497C dC75C4 e1E0F4 b1168 cD744 b39BC c4EC4 b39BC c4EC4 b39BC c5164",
    "b371C c5164 b39BC c4EC4 b39BC c4EC4 b39BC c4EC4 b39BC c4EC4 b39BC c5164 b39BC c4EC4 b39BC",
    "c4EC4 b39BC c4EC4 b39BC c4EC4 b39BC c5164 b371C c5164 b443C c4444 b443C c4444 b443C c4444",
    "b46DC c41A4 b46DC c4444 b443C c4444 b443C c4444 b443C c4444 b443C c4444 b46DC c4444 b443C",
    "c4444 b443C c4444 b443C c4444 b443C c4444 b46DC c41A4 b46DC c4444 b443C c4444 b443C c4444",
    "b443C c4444 b443C c4444 b46DC c41A4 b46DC c4444 b443C c4444 b443C c4444 b443C c3C64 b4C1C",
    "c3C64 b4EBC c39C4 b4EBC c39C4 b4EBC c3C64 b4C1C c3C64 b4C1C c3C64 b4EBC c39C4 b4EBC c39C4",
    "b4EBC c3C64 b4C1C c3C64 b4C1C c3C64 b4C1C c3C64 b4EBC c39C4 b4EBC c39C4 b4EBC c3C64 b4C1C",
    "c3C64 b4C1C c3C64 b4EBC c39C4 b4EBC c39C4 b4EBC c31E4 b593C c2F44 b593C c2F44 b593C c31E4",
    "b593C c2F44 b593C c2F44 b593C c2F44 b593C c2F44 b593C f2F44"],
   ["America/Fortaleza <-03>3 -9240:LMT,-10800:-03,-7200:-02 B196A55018 C2164DEC8 b43B0 c4564",
    "b437C c8EB04 b3300 c55E0 b2D5C c5B84 b2DBC c5B84 b21BC c5C3A4 b1F1C c7E04 b161C c5BE4 b21BC",
    "c5BE4 b2CFC c5BE4 b2D5C c974A4 b31DC c5404 b29FC c5EE4 b275C c5E84 b275C c6124 b2C9C c52864",
    "b371C c5404 b53C c85E4 b2F3C"],
   ["America/Glace_Bay AST4ADT,M3.2.0,M11.1.0",
    "-14388:LMT,-14400:AST,-10800:ADT,-10800:AWT,-10800:APT B180EC8D34 C1DC6DD2C b497C dC75C4",
    "e1E104 b1158 c40CE4 b39BC c9F244 b443C c4444 b443C c4444 b443C c4444 b443C c4444 b46DC c41A4",
    "b46DC c4444 b443C c4444 b443C c4444 b443C c4444 b443C c4444 b46DC c41A4 b46DC c4444 b443C",
    "c4444 b443C c4444 b443C c3C64 b4C1C c3C64 b4EBC c39C4 b4EBC c39C4 b4EBC c3C64 b4C1C c3C64",
    "b4C1C c3C64 b4EBC c39C4 b4EBC c39C4 b4EBC c3C64 b4C1C c3C64 b4C1C c3C64 b4C1C c3C64 b4EBC",
    "c39C4 b4EBC c39C4 b4EBC c3C64 b4C1C c3C64 b4C1C c3C64 b4EBC c39C4 b4EBC c39C4 b4EBC c31E4"],
   ["America/Goose_Bay AST4ADT,M3.2.0,M11.1.0",
    "-14500:LMT,-12652:NST,-9052:NDT,-12600:NST,-9000:NDT,-9000:NWT,-9000:NPT,-14400:AST,-10800:ADT,-7200:ADDT",
    "B15E382124 C407B4268 b497C d8C93C E219E3CC d371C e5164 d371C e5164 d371C e5404 d347C e5404",
    "d371C e5164 d371C f5164 g1BEEE d1156 e5404 d371C e5164 d371C e5164 d371C e5164 d371C e5404",
    "d371C e4C24 d39BC e4EC4 d39BC e4EC4 d39BC e4EC4 d39BC e4EC4 d39BC e5164 d39BC e4EC4 d39BC",
    "e4EC4 d39BC e4EC4 d39BC e4EC4 d46DC e4444 d443C e4444 d443C e4444 d443C e4444 d443C e4444",
    "d46DC h32A4 iF02 h46DC i4444 h443C i4444 h443C i4444 h443C i4444 h443C i4444 h46DC i4444",
    "h443C i4444 h443C i4444 h443C i4444 h443C i4444 h46DC i41A4 h46DC i4444 h443C i4444 h443C",
    "i4444 h443C i4444 h443C i4444 h46DC i41A4 h46DC i4444 h443C i4444 h443C i4444 h443C ID433AC",
    "h4C1C j3C64 h4EB8 i39C8 h4EBC i39C4 h4EBC i3C64 h4C1C i3C64 h4C1C i3C64 h4EBC i39C4 h4EBC",
    "i39C4 h4EBC i3C64 h4C1C i3C64 h4C1C i3C64 h4C1C i3C64 h4EBC i39C4 h4EBC i39C4 h4EBC i3C64",
    "h4C1C i3C64 h4C1C i3C64 h4EBC i39C4 h4EBC i39C4 h4EBC i31E4 h593C i2F44 h593C i2F44 h593C",
    "i31E4 h593C i2F44 H139D2D4"],
   ["America/Grand_Turk EST5EDT,M3.2.0,M11.1.0",
    "-17072:LMT,-18430:KMT,-18000:EST,-14400:EDT,-14400:AST B169820330 C298896CE D7E79B0F2 c443C",
    "d4444 c443C d4444 c443C d4444 c46DC d41A4 c46DC d4444 c443C d4444 c443C d4444 c443C d3C64",
    "c4C1C d3C64 c4EBC d39C4 c4EBC d39C4 c4EBC d3C64 c4C1C d3C64 c4C1C d3C64 c4EBC d39C4 c4EBC",
    "d39C4 c4EBC d3C64 c4C1C d3C64 c4C1C d3C64 c4C1C d3C64 c4EBC d39C4 c4EBC d39C4 c4EBC d3C64",
    "c4C1C d3C64 c4C1C d3C64 c4EBC d39C4 c4EBC d39C4 c4EBC d31E4 c593C d2F44 c593C d2F44 c593C",
    "d31E4 c593C d2F44 c593C d2F44 c593C d2F44 c593C d2F44 c593C e2F44 d19C20"],
   ["America/Grenada AST4 -14820:LMT,-14400:AST B191EF1964"],
   ["America/Guadeloupe AST4 -14768:LMT,-14400:AST B191D0C6B0"],
   ["America/Guatemala CST6 -21724:LMT,-21600:CST,-18000:CDT B19F98CFDC C67B7C184 b221C c4F0E4",
    "b2E7C c40324 b3EFC c7D5E4 b39BC"],
   ["America/Guayaquil <-05>5 -19160:LMT,-18840:QMT,-18000:-05,-14400:-04 B169820B58 C4D1D1BC0",
    "D7472BAB8 c19DC"],
   ["America/Guyana <-04>4 -13959:LMT,-14400:-04,-13500:-0345,-10800:-03 B19217F487 C6BC6BB9",
    "d20537F b8E9E1"],
   ["America/Halifax AST4ADT,M3.2.0,M11.1.0",
    "-15264:LMT,-14400:AST,-10800:ADT,-10800:AWT,-10800:APT B180EC90A0 C19F33320 b449C cD20C",
    "b497C cD1FC b29FC c5DC4 b2DBC c58E4 b2FFC c5B24 b2D5C c5B24 b323C c5644 b377C c5644 b2CFC",
    "c5644 b377C c5644 b2C9C c5BE4 b2ABC c5DC4 b2F9C c58E4 b34DC c5104 b377C c5104 b3A1C c5644",
    "b2C9C c6124 b2CFC c5BE4 b275C c5644 b377C c5104 b377C c5B84 b2CFC c53A4 b377C c5104 b377C",
    "d31EC e1E104 b1158 c4EC4 b39BC c4EC4 b39BC c4EC4 b39BC c4EC4 b39BC cD9E4 b39BC c4EC4 b39BC",
    "c4EC4 b39BC c4EC4 b39BC cD9E4 b39BC c4EC4 b39BC c4EC4 b39BC c4EC4 b39BC c16264 b443C c4444",
    "b443C c4444 b443C c4444 b46DC c41A4 b46DC c4444 b443C c4444 b443C c4444 b443C c4444 b443C",
    "c4444 b46DC c4444 b443C c4444 b443C c4444 b443C c4444 b443C c4444 b46DC c41A4 b46DC c4444",
    "b443C c4444 b443C c4444 b443C c4444 b443C c4444 b46DC c41A4 b46DC c4444 b443C c4444 b443C",
    "c4444 b443C c3C64 b4C1C c3C64 b4EBC c39C4 b4EBC c39C4 b4EBC c3C64 b4C1C c3C64 b4C1C c3C64",
    "b4EBC c39C4 b4EBC c39C4 b4EBC c3C64 b4C1C c3C64 b4C1C c3C64 b4C1C c3C64 b4EBC c39C4 b4EBC",
    "c39C4 b4EBC c3C64 b4C1C c3C64 b4C1C c3C64 b4EBC c39C4 b4EBC c39C4 b4EBC c31E4"],
   ["America/Havana CST5CDT,M3.2.0/0,M11.1.0/1 -19768:LMT,-19776:HMT,-18000:CST,-14400:CDT",
    "B169820DB8 C42DB99C8 D570D1D0 c2DBC d63AE4 c221C d6664 c24BC d6664 c221C d17764 c221C d6664",
    "c221C dA0804 c2D5C d5A64 c2F3C d4684 c3A1C d5164 c371C d56A4 c443C d4444 c443C d4444 c46DC",
    "d4444 c3C5C d4C24 c3CBC d4BC4 c3D1C d4B64 c443C d4444 c46DC d41A4 c46DC d46E4 c39BC d3C64",
    "c4EBC d39C4 c4EBC d4EC4 c39BC d4EC4 c39BC d4EC4 c39BC d4EC4 c3C5C d4C24 c3C5C d39C4 c4EBC",
    "d39C4 c4EBC d3C64 c4C1C d3C64 c4C1C d41A4 c497C d41A4 c46E0 d41A0 c46E0 d41A0 c46E0 d41A0",
    "c46E0 d41A0 c46E0 d4440 c4440 d4440 c46E0 d3F00 c4EC0 d39C0 c5160 d39C0 c4EC0 d39C0 c4EC0",
    "d3C60 c4C20 d3C60 c4C20 d39C0 c16260 d31E0 c56A0 d3480 c5400 d31E0 c56A0 d3480 c56A0 d3480",
    "c5940 d3480"],
   ["America/Hermosillo MST7 -26632:LMT,-25200:MST,-21600:CST,-21600:MDT b77F2DC c2E8C0 b1D63C",
    "d3E44 b39BC c44A4 b5621C d1CDE2C b4C1C d3C64 b4C1C d3C64 b4C1C"],
   ["America/Indiana/Indianapolis EST5EDT,M3.2.0,M11.1.0",
    "-20678:LMT,-21600:CST,-18000:CDT,-18000:CWT,-18000:CPT,-18000:EST,-14400:EDT b638DE8 c126278",
    "b4EBC c39C4 b4EBC cB9644 b24BC d3244 e1E0FC b1160 c4EC4 b39BC c4EC4 b39BC c4EC4 b39BC c4EC4",
    "b39BC c5164 b371C c5164 b39BC c4EC4 b39BC c4EC4 b39BC c4EC4 b39BC f4EC4 b14D5C f4EC4 g5E2BC",
    "f443C g4444 f443C g12F5A4 f4EBC g31E4"],
   ["America/Indiana/Knox CST6CDT,M3.2.0,M11.1.0",
    "-20790:LMT,-21600:CST,-18000:CDT,-18000:CWT,-18000:CPT,-18000:EST b638DE8 c126278 b4EBC",
    "c39C4 b4EBC dBED44 e1E0FC b1160 cD744 b39BC c4EC4 b39BC c4EC4 b39BC c5164 b371C c5164 b39BC",
    "c4EC4 b39BC c4EC4 b39BC c4EC4 b39BC c4EC4 b46DC c4444 b443C c4444 b39BC c4EC4 b39BC c4EC4",
    "b443C c4444 b46DC c4444 b443C f4444 bCCBC c1E064 b443C c4444 b443C c4444 b443C c4444 b443C",
    "c4444 b46DC c4444 b443C c4444 b443C c1A44 b6E3C c2CA4 b5BDC c4444 b46DC c41A4 b46DC c4444",
    "b443C c4444 b443C c4444 b443C c4444 b443C c4444 b46DC c41A4 b46DC c4444 b443C c4444 b443C",
    "c4444 b443C c3C64 b4C1C c3C64 b4EBC c39C4 b4EBC c39C4 b4EBC c3C64 f4C1C c7B8A0 b4EC0 c31E4"],
   ["America/Indiana/Marengo EST5EDT,M3.2.0,M11.1.0",
    "-20723:LMT,-21600:CST,-18000:CDT,-18000:CWT,-18000:CPT,-18000:EST,-14400:EDT b638DE8 c126278",
    "b4EBC c39C4 b4EBC dBED44 e1E0FC b1160 c2FBE4 b39BC c15FC4 b39BC c4EC4 b39BC c5164 b39BC",
    "c4EC4 b39BC c4EC4 b39BC c4EC4 b39BC c4EC4 b39BC f5164 g4469C f443C g4444 f443C g4444 f46DC",
    "g4444 f443C g4444 f443C c1A44 f6E40 g2CA0 f5BDC g104884 f4EBC g31E4"],
   ["America/Indiana/Petersburg EST5EDT,M3.2.0,M11.1.0",
    "-20947:LMT,-21600:CST,-18000:CDT,-18000:CWT,-18000:CPT,-18000:EST b638DE8 c126278 b4EBC",
    "c39C4 b4EBC dBED44 e1E0FC b1160 c5207C b3724 c5164 b39BC c4EC4 b39BC c4EC4 b39BC c4EC4 b39BC",
    "c4EC4 b39BC c5164 b443C c4444 b443C c4444 b443C c4444 b443C f4444 bCF5C c4444 b443C c4444",
    "b443C c4444 b443C c4444 b443C c4444 b46DC c4444 b443C c4444 b443C c1A44 b6E3C c2CA4 b5BDC",
    "c4444 b46DC c41A4 f46DC cF34E0 b4EC0 c31E4 f593C"],
   ["America/Indiana/Tell_City CST6CDT,M3.2.0,M11.1.0",
    "-20823:LMT,-21600:CST,-18000:CDT,-18000:CWT,-18000:CPT,-18000:EST,-14400:EDT b638DE8 c126278",
    "b4EBC c39C4 b4EBC dBED44 e1E0FC b1160 c5207C b3724 c5164 b39BC c4EC4 b39BC c4EC4 b39BC c4EC4",
    "b39BC c4EC4 b39BC c5164 b443C c4444 b443C c4444 b443C f4444 b1E05C c4444 b443C g4444 f4438",
    "g4444 f443C c12F5A4 b4EC0 c31E4"],
   ["America/Indiana/Vevay EST5EDT,M3.2.0,M11.1.0",
    "-20416:LMT,-21600:CST,-18000:CDT,-18000:CWT,-18000:CPT,-18000:EST,-14400:EDT b638DE8 c126278",
    "b4EBC c39C4 b4EBC dBED44 e1E0FC b1160 f49564 g8075C f443C g4444 f443C g4444 f46DC g4444",
    "f443C g11E204 f4EBC g31E4"],
   ["America/Indiana/Vincennes EST5EDT,M3.2.0,M11.1.0",
    "-21007:LMT,-21600:CST,-18000:CDT,-18000:CWT,-18000:CPT,-18000:EST,-14400:EDT b638DE8 c126278",
    "b4EBC c39C4 b4EBC dBED44 e1E0FC b1160 c4EC4 b39BC c38464 b39BC c4EC4 b39BC c515C b3724 c5164",
    "b39BC c4EC4 b39BC c4EC4 b39BC c4EC4 b39BC c4EC4 b46DC c4444 b371C c5164 b443C c4444 b443C",
    "f4444 g2AD1C f443C g4444 f443C c12F5A4 b4EC0 c31E4 f593C"],
   ["America/Indiana/Winamac EST5EDT,M3.2.0,M11.1.0",
    "-20785:LMT,-21600:CST,-18000:CDT,-18000:CWT,-18000:CPT,-18000:EST,-14400:EDT b638DE8 c126278",
    "b4EBC c39C4 b4EBC dBED44 e1E0FC b1160 c4EC4 b39BC c4EC4 b39BC c4EC4 b39BC c4EC4 b39BC c5164",
    "b371C c5164 b39BC c4EC4 b39BC c4EC4 b39BC c4EC4 b39BC c4EC4 b46DC c4444 b443C c4444 b39BC",
    "c4EC4 b39BC c4EC4 b39BC c4EC4 b39BC f5164 g4469C f443C g4444 f443C c12F5A4 b4EC0 g31E4"],
   ["America/Inuvik MST7MDT,M3.2.0,M11.1.0 0:-00,-28800:PST,-25200:PDT,-21600:MDT,-25200:MST",
    "b8888E0 cA5748 b443C c4444 b443C c4444 b443C c4444 b443C c4444 b46DC c41A4 b46DC c4444 b443C",
    "d4444 e4438 d4444 e443C d4444 e443C d4444 e46DC d41A4 e46DC d4444 e443C d4444 e443C d4444",
    "e443C d3C64 e4C1C d3C64 e4EBC d39C4 e4EBC d39C4 e4EBC d3C64 e4C1C d3C64 e4C1C d3C64 e4EBC",
    "d39C4 e4EBC d39C4 e4EBC d3C64 e4C1C d3C64 e4C1C d3C64 e4C1C d3C64 e4EBC d39C4 e4EBC d39C4",
    "e4EBC d3C64 e4C1C d3C64 e4C1C d3C64 e4EBC d39C4 e4EBC d39C4 e4EBC d31E4"],
   ["America/Iqaluit,America/Pangnirtung EST5EDT,M3.2.0,M11.1.0",
    "0:-00,-14400:EWT,-14400:EPT,-18000:EST,-14400:EDT,-21600:CST,-18000:CDT b82F5A0 c1A03C d115C",
    "eE38E4 d443C e4444 d443C e4444 d443C e4444 d443C e4444 d46DC e41A4 d46DC e4444 d443C e4444",
    "d443C e4444 d443C e4444 d443C e4444 d46DC e41A4 d46DC e4444 d443C e4444 d443C e4444 d443C",
    "e3C64 d4C1C e3C64 d4EBC e39C4 d4EBC e39C4 d4EBC e3C64 d4C1C e3C64 d4C1C e3C64 d4EBC e39C4",
    "d4EBC e39C4 d4EBC e3C64 d4C1C e3C64 d4C1C e3C64 d4C1C e3C64 f4EBC g39C8 d4EBC e39C0 d4EBC",
    "e3C64 d4C1C e3C64 d4C1C e3C64 d4EBC e39C4 d4EBC e39C4 d4EBC e31E4"],
   ["America/Jamaica EST5 -18430:LMT,-18430:KMT,-18000:EST,-14400:EDT B16982087E cBD060 D747D6472",
    "c6E3C d2CA4 c5BDC d4444 c46DC d41A4 c46DC d4444 c443C d4444 c443C d4444 c443C d4444 c443C",
    "d4444 c46DC d41A4 c46DC"],
   ["America/Juneau AKST9AKDT,M3.2.0,M11.1.0",
    "54139:LMT,-32261:LMT,-28800:PST,-25200:PWT,-25200:PPT,-25200:PDT,-28800:YDT,-32400:YST,-32400:AKST,-28800:AKDT",
    "B13FBDE2D1 C3DC434F4 D4E01E7DB e1E0F4 c1168 fC9CC4 c443C f4444 c443C f4444 c46DC f4444 c443C",
    "f4444 c443C f1A44 c6E3C f2CA4 c5BDC f4444 c46DC f41A4 c46DC f4444 c443C f4444 c443C g4444",
    "c4440 f4440 c443C f4444 c46DC f41A4 h46DC iBA0 j38A8 i443C j4444 i443C j4444 i443C j3C64",
    "i4C1C j3C64 i4EBC j39C4 i4EBC j39C4 i4EBC j3C64 i4C1C j3C64 i4C1C j3C64 i4EBC j39C4 i4EBC",
    "j39C4 i4EBC j3C64 i4C1C j3C64 i4C1C j3C64 i4C1C j3C64 i4EBC j39C4 i4EBC j39C4 i4EBC j3C64",
    "i4C1C j3C64 i4C1C j3C64 i4EBC j39C4 i4EBC j39C4 i4EBC j31E4"],
   ["America/Kentucky/Louisville EST5EDT,M3.2.0,M11.1.0",
    "-20582:LMT,-21600:CST,-18000:CDT,-18000:CWT,-18000:CPT,-18000:EST,-14400:EDT b638DE8 c126278",
    "b4EBC c39C4 b4EBC cCF64 b2E1C cA83C4 b39BC d3244 e1E0FC b1160 C114CD2C B2E3254 c21784 b371C",
    "c5164 b39BC c4EC4 b39BC c4EC4 b39BC c4EC4 b39BC c4EC4 b39BC c5164 b443C c4444 b443C c4444",
    "b443C c4444 b443C c4444 b46DC c4444 f1F7C g39EA0 f443C g4444 f443C g4444 f443C g4444 f46DC",
    "g4444 f443C g4444 f443C c1A44 f6E40 g2CA0 f5BDC g4444 f46DC g41A4 f46DC g4444 f443C g4444",
    "f443C g4444 f443C g4444 f443C g4444 f46DC g41A4 f46DC g4444 f443C g4444 f443C g4444 f443C",
    "g3C64 f4C1C g3C64 f4EBC g39C4 f4EBC g39C4 f4EBC g3C64 f4C1C g3C64 f4C1C g3C64 f4EBC g39C4",
    "f4EBC g39C4 f4EBC g3C64 f4C1C g3C64 f4C1C g3C64 f4C1C g3C64 f4EBC g39C4 f4EBC g39C4 f4EBC",
    "g3C64 f4C1C g3C64 f4C1C g3C64 f4EBC g39C4 f4EBC g39C4 f4EBC g31E4"],
   ["America/Kentucky/Monticello EST5EDT,M3.2.0,M11.1.0",
    "-20364:LMT,-21600:CST,-18000:CDT,-18000:CWT,-18000:CPT,-18000:EST,-14400:EDT b638DE8 c126278",
    "b4EBC c39C4 b4EBC dBED44 e1E0FC b1160 cC1444 b443C c4444 b443C c4444 b443C c4444 b46DC c4444",
    "b443C c4444 b443C c1A44 b6E3C c2CA4 b5BDC c4444 b46DC c41A4 b46DC c4444 b443C c4444 b443C",
    "c4444 b443C c4444 b443C c4444 b46DC c41A4 b46DC c4444 b443C c4444 b443C c4444 b443C c3C64",
    "b4C1C c3C64 b4EBC c39C4 b4EBC c39C4 b4EBC c3C64 b4C1C c3C64 b4C1C c3C64 b4EBC c39C4 b4EBC",
    "c39C4 b4EBC c3C64 b4C1C c3C64 b4C1C c3C64 b4C1C c3C64 b4EBC c39C4 f4EBC g39C0 f4EBC g3C64",
    "f4C1C g3C64 f4C1C g3C64 f4EBC g39C4 f4EBC g39C4 f4EBC g31E4"],
   ["America/La_Paz <-04>4 -16356:LMT,-16356:CMT,-12756:BST,-14400:-04 B169820064 c165AE0 d3B3C"],
   ["America/Lima <-05>5 -18492:LMT,-18516:LMT,-18000:-05,-14400:-04 B1698208BC C22ED1D18",
    "D375B097C c21BC d4264 c443C d4444 c443C d187DA4 c21BC d6724 c21BC d17944 c21BC d20224 c21BC"],
   ["America/Los_Angeles PST8PDT,M3.2.0,M11.1.0",
    "-28378:LMT,-28800:PST,-25200:PDT,-25200:PWT,-25200:PPT b638DF0 c126278 b4EBC c39C4 b4EBC",
    "dBED44 e1E0F4 b1168 C49D4E4C B1823934 cB580 b3720 c5160 b39C0 c4EC0 b39C0 c4EC0 b39C0 c4EC0",
    "b39C0 c4EC0 b39C0 c5160 b39C0 c4EC0 b39C0 c4EC0 b39C0 c4EC0 b39C0 c4EC0 b39C0 c5160 b3720",
    "c5160 b4440 c4440 b4440 c4440 b4440 c4440 b46E0 c41A0 b46E0 c4444 b443C c4444 b443C c4444",
    "b443C c4444 b443C c4444 b46DC c4444 b443C c4444 b443C c1A44 b6E3C c2CA4 b5BDC c4444 b46DC",
    "c41A4 b46DC c4444 b443C c4444 b443C c4444 b443C c4444 b443C c4444 b46DC c41A4 b46DC c4444",
    "b443C c4444 b443C c4444 b443C c3C64 b4C1C c3C64 b4EBC c39C4 b4EBC c39C4 b4EBC c3C64 b4C1C",
    "c3C64 b4C1C c3C64 b4EBC c39C4 b4EBC c39C4 b4EBC c3C64 b4C1C c3C64 b4C1C c3C64 b4C1C c3C64",
    "b4EBC c39C4 b4EBC c39C4 b4EBC c3C64 b4C1C c3C64 b4C1C c3C64 b4EBC c39C4 b4EBC c39C4 b4EBC",
    "c31E4"],
   ["America/Maceio <-03>3 -8572:LMT,-10800:-03,-7200:-02 B196A54D7C C2164E164 b43B0 c4564 b437C",
    "c8EB04 b3300 c55E0 b2D5C c5B84 b2DBC c5B84 b21BC c5C3A4 b1F1C c7E04 b161C c5BE4 b21BC c5BE4",
    "b2CFC c5BE4 b2D5C c974A4 b31DC c5404 b29FC c5EE4 b275C c5E84 b275C c6124 b2C9C c30904 b2C9C",
    "c1F2C4 b371C c5404 b53C c85E4 b2F3C"],
   ["America/Managua CST6 -20708:LMT,-20712:MMT,-21600:CST,-18000:EST,-18000:CDT B169821164",
    "C53A61C84 D49162B78 cF5FC e22F24 c251C e6364 c251C d62A74 c640C d2524 c223DC e46CE4 c419C",
    "e4ECC c39B8"],
   ["America/Manaus <-04>4 -14404:LMT,-14400:-04,-10800:-03 B196A56444 C2164D8AC b43B0 c4564",
    "b437C c8EB04 b3300 c55E0 b2D5C c5B84 b2DBC c5B84 b21BC c5C3A4 b1F1C c7E04 b161C c5BE4 b21BC",
    "c5BE4 b2CFC c5BE4 b2D5C c974A4 b31DC c5404 b29FC c5EE4 b275C c30BA4 b2F3C"],
   ["America/Marigot,America/Port_of_Spain,America/St_Barthelemy AST4 -14764:LMT,-14400:AST",
    "B1933218AC"],
   ["America/Martinique AST4 -14660:LMT,-14660:FFMT,-14400:AST,-10800:ADT B16981F9C4 cB68E0",
    "D81A9A5FC c419C"],
   ["America/Matamoros CST6CDT,M3.2.0,M11.1.0 -23400:LMT,-21600:CST,-18000:CDT b77F2D8 c2372A8",
    "b4EBC c3FA84 b4C1C c3C64 b4C1C c3C64 b4C1C c3C64 b4EBC c39C4 b4EBC c46E4 b371C c46E4 b4C1C",
    "c3C64 b4C1C c3C64 b4EBC c39C4 b4EBC c39C4 b4EBC c39C4 b4EBC c3C64 b4C1C c3C64 b4C1C c3484"],
   ["America/Mazatlan MST7 -25540:LMT,-25200:MST,-21600:CST,-21600:MDT b77F2DC c2E8C0 b1D63C",
    "d3E44 b39BC c44A4 b5621C d1CDE2C b4C1C d3C64 b4C1C d3C64 b4C1C d3C64 b4EBC d39C4 b4EBC d46E4",
    "b371C d46E4 b4C1C d3C64 b4C1C d3C64 b4EBC d39C4 b4EBC d39C4 b4EBC d39C4 b4EBC d3C64 b4C1C",
    "d3C64 b4C1C d3C64 b4EBC d39C4 b4EBC d39C4 b4EBC d3C64 b4C1C d3C64 b4C1C d3C64 b4C1C d3C64",
    "b4EBC d39C4 b4EBC d39C4 b4EBC d3C64 b4C1C d3C64 b4C1C d3C64 b4EBC d39C4 b4EBC"],
   ["America/Menominee CST6CDT,M3.2.0,M11.1.0",
    "-21027:LMT,-21600:CST,-18000:CDT,-18000:CWT,-18000:CPT,-18000:EST B161722E63 C3D2EE31D b4EBC",
    "c39C4 b4EBC dBED44 e1E0FC b1160 c4EC4 b39BC cA7824 b46DC f15544 c2249C b4440 c1A44 b6E3C",
    "c2CA4 b5BDC c4444 b46DC c41A4 b46DC c4444 b443C c4444 b443C c4444 b443C c4444 b443C c4444",
    "b46DC c41A4 b46DC c4444 b443C c4444 b443C c4444 b443C c3C64 b4C1C c3C64 b4EBC c39C4 b4EBC",
    "c39C4 b4EBC c3C64 b4C1C c3C64 b4C1C c3C64 b4EBC c39C4 b4EBC c39C4 b4EBC c3C64 b4C1C c3C64",
    "b4C1C c3C64 b4C1C c3C64 b4EBC c39C4 b4EBC c39C4 b4EBC c3C64 b4C1C c3C64 b4C1C c3C64 b4EBC",
    "c39C4 b4EBC c39C4 b4EBC c31E4"],
   ["America/Merida CST6 -21508:LMT,-21600:CST,-18000:EST,-18000:CDT b77F2D8 c2017E8 b749C d72F64",
    "b4C1C d3C64 b4C1C d3C64 b4C1C d3C64 b4EBC d39C4 b4EBC d46E4 b371C d46E4 b4C1C d3C64 b4C1C",
    "d3C64 b4EBC d39C4 b4EBC d39C4 b4EBC d39C4 b4EBC d3C64 b4C1C d3C64 b4C1C d3C64 b4EBC d39C4",
    "b4EBC d39C4 b4EBC d3C64 b4C1C d3C64 b4C1C d3C64 b4C1C d3C64 b4EBC d39C4 b4EBC d39C4 b4EBC",
    "d3C64 b4C1C d3C64 b4C1C d3C64 b4EBC d39C4 b4EBC"],
   ["America/Metlakatla AKST9AKDT,M3.2.0,M11.1.0",
    "54822:LMT,-31578:LMT,-28800:PST,-25200:PWT,-25200:PPT,-25200:PDT,-32400:AKST,-28800:AKDT",
    "B13FBDE2D1 C3DC43249 D4E01EA86 e1E0F4 c1168 fC9CC4 c443C f4444 c443C f4444 c46DC f4444 c443C",
    "f4444 c443C f1A44 c6E3C f2CA4 c5BDC f4444 c46DC f41A4 c46DC f4444 c443C f4444 c443C f4444",
    "c443C f4444 c443C f4444 c46DC f41A4 c46DC g111FC4 h31E4 g593C h2F44 g593C h2F44 c593C g1CE0"],
   ["America/Mexico_City CST6 -23796:LMT,-25200:MST,-21600:CST,-21600:MDT,-18000:CDT,-18000:CWT",
    "b77F2DC c2E8C0 b1D63C d3E44 b39BC c44A4 e3A9DC c347C eC7E4 c2A5C f172E4 c335C e31864 c3EFC",
    "e18720C c4C1C e3C64 c4C1C e3C64 c4C1C e3C64 c4EBC e39C4 c4EBC e46E4 c371C e46E4 c4C1C e3C64",
    "c4C1C e3C64 c4EBC e39C4 c4EBC e39C4 c4EBC e39C4 c4EBC e3C64 c4C1C e3C64 c4C1C e3C64 c4EBC",
    "e39C4 c4EBC e39C4 c4EBC e3C64 c4C1C e3C64 c4C1C e3C64 c4C1C e3C64 c4EBC e39C4 c4EBC e39C4",
    "c4EBC e3C64 c4C1C e3C64 c4C1C e3C64 c4EBC e39C4 c4EBC"],
   ["America/Miquelon <-03>3<-02>,M3.2.0,M11.1.0 -13480:LMT,-14400:AST,-10800:-03,-7200:-02",
    "B191D9FC28 C818F4C98 d3B4C4 c4C1C d3C64 c4EBC d39C4 c4EBC d39C4 c4EBC d3C64 c4C1C d3C64",
    "c4C1C d3C64 c4EBC d39C4 c4EBC d39C4 c4EBC d3C64 c4C1C d3C64 c4C1C d3C64 c4C1C d3C64 c4EBC",
    "d39C4 c4EBC d39C4 c4EBC d3C64 c4C1C d3C64 c4C1C d3C64 c4EBC d39C4 c4EBC d39C4 c4EBC d31E4"],
   ["America/Moncton AST4ADT,M3.2.0,M11.1.0",
    "-15548:LMT,-18000:EST,-14400:AST,-10800:ADT,-10800:AWT,-10800:APT B15E19D2BC C22D2C894",
    "d87844 c497C d7D2E0 c221C d6664 c221C d6664 c221C d6664 c221C d6664 c221C d6664 c221C d6364",
    "c2C9C d59A4 c2EDC d5464 c36BC e32A8 f1E104 c1158 d4EC4 c39BC d4EC4 c39BC d4EC4 c39BC d4EC4",
    "c39BC d5164 c371C d5164 c39BC d4EC4 c39BC d4EC4 c39BC d4EC4 c39BC d4EC4 c39BC d5164 c39BC",
    "d4EC4 c443C d4444 c443C d4444 c443C d4444 c46DC d4444 c443C d4444 c443C d4444 c443C d4444",
    "c443C d4444 c46DC d41A4 c46DC d4444 c443C d4444 c443C d4444 c443C d4444 c443C d4444 c46DC",
    "d4444 c443C dCCC4 c443C d4444 c443C d4444 c46DC d41A4 c46DC d4444 c443C d4444 c443C d4444",
    "c443C d4444 c443C d4444 c46DC d41A4 c46DC d4444 c443C d4444 c443C d4444 c443C d3C64 c4C1C",
    "d3C64 c4EBC d39C4 c4EBC d39C4 c4EBC d3C64 c4C1C d3C64 c4C1C DD433AC c4EBC d39C4 c4EBC d39C4",
    "c4EBC d3C64 c4C1C d3C64 c4C1C d3C64 c4C1C d3C64 c4EBC d39C4 c4EBC d39C4 c4EBC d3C64 c4C1C",
    "d3C64 c4C1C d3C64 c4EBC d39C4 c4EBC d39C4 c4EBC DAF8174"],
   ["America/Monterrey CST6 -24076:LMT,-25200:MST,-21600:CST,-21600:MDT,-18000:CDT b77F2D8 c2E8C4",
    "b1D63C d3E44 b39BC c44A4 e1DF704 c4EBC e3FA84 c4C1C e3C64 c4C1C e3C64 c4C1C e3C64 c4EBC",
    "e39C4 c4EBC e46E4 c371C e46E4 c4C1C e3C64 c4C1C e3C64 c4EBC e39C4 c4EBC e39C4 c4EBC e39C4",
    "c4EBC e3C64 c4C1C e3C64 c4C1C e3C64 c4EBC e39C4 c4EBC e39C4 c4EBC e3C64 c4C1C e3C64 c4C1C",
    "e3C64 c4C1C e3C64 c4EBC e39C4 c4EBC e39C4 c4EBC e3C64 c4C1C e3C64 c4C1C e3C64 c4EBC e39C4",
    "c4EBC"],
   ["America/Montevideo <-03>3",
    "-13491:LMT,-13491:MMT,-14400:-04,-10800:-03,-12600:-0330,-9000:-0230,-7200:-02,-5400:-0130",
    "B18C2FCA33 c65CA0 D66D538D e449C d44A2 e443E d44A2 e443E d40E02 e39BE d4EC2 e39BE d4EC2",
    "e39BE d4EC2 e39BE d5162 e371E d5162 e371E d46E2 e443E d4EC2 e39BE d2E82 fBB7E d21BE f8AA22",
    "d419E g17A2 d125C g2B7A4 d419C f16D44 d467E gBF42 d12BC gFEA4 d1F7C hCCC4 f14FA d41A4 g2A02",
    "d24BC gEC44 d1CDC g6664 d221C g6BA4 d1CDC g1504 d78BC g424E4 d1C7C g6BA4 d1F7C g5944 d2C9C",
    "g5944 d31DC g5944 d2F3C g56A4 d31DC g62EE4 d46E4 g4984 d39BC g4C24 d3C5C g4EC4 d39BC g4EC4",
    "d39BC g4EC4 d3C5C g4C24 d3C5C g4C24 d3C5C g4EC4 d39BC g4EC4 d39BC g4EC4 d39BC"],
   ["America/Montreal,America/Nipigon,America/Thunder_Bay,America/Toronto EST5EDT,M3.2.0,M11.1.0",
    "-19052:LMT,-18000:EST,-14400:EDT,-14400:EWT,-14400:EPT B172E95DEC C2BCA1A84 b497C c3A1A",
    "b4E5E c46EC b3714 c56AC b2E1C c5A64 b2F3C c5944 b2F3C c56A4 b347C c5404 b347C c5404 b347C",
    "c5404 b371C c5164 b39BC c4EC4 b39BC c4EC4 b39BC c4EC4 b39BC c5164 b371C c5164 b39BC c4EC4",
    "b39BC c4EC4 b39BC c4EC4 b39BC c4EC4 b39BC c4EC4 b39BC c5164 b371C c5164 dF480 e1E100 b115C",
    "c4EC4 b39BC c4EC4 b39BC c4EC4 b39BC c4EC4 b515C c39C4 b4EBC c39C4 b39BC c4EC4 b39BC c4EC4",
    "b39BC c4EC4 b39BC c4EC4 b39BC c5164 b39BC c4EC4 b443C c4444 b443C c4444 b443C c4444 b46DC",
    "c4444 b443C c4444 b443C c4444 b443C c4444 b443C c4444 b46DC c41A4 b46DC c4444 b443C c4444",
    "b443C c4444 b443C c4444 b443C c4444 b46DC c4444 b443C c4444 b443C c4444 b443C c4444 b443C",
    "c4444 b46DC c41A4 b46DC c4444 b443C c4444 b443C c4444 b443C c4444 b443C c4444 b46DC c41A4",
    "b46DC c4444 b443C c4444 b443C c4444 b443C c3C64 b4C1C c3C64 b4EBC c39C4 b4EBC c39C4 b4EBC",
    "c3C64 b4C1C c3C64 b4C1C c3C64 b4EBC c39C4 b4EBC c39C4 b4EBC c3C64 b4C1C c3C64 b4C1C c3C64",
    "b4C1C c3C64 b4EBC c39C4 b4EBC c39C4 b4EBC c3C64 b4C1C c3C64 b4C1C c3C64 b4EBC c39C4 b4EBC",
    "c39C4 b4EBC c31E4"],
   ["America/Montserrat AST4 -14932:LMT,-14400:AST B191EF1A10"],
   ["America/Nassau EST5EDT,M3.2.0,M11.1.0 -18570:LMT,-18000:EST,-14400:EWT,-14400:EPT,-14400:EDT",
    "B19332278A C38BDACC6 b16D9C cBA4 d4908 b1814 e9E8EC b443C e4444 b46DC e41A4 b46DC e4444",
    "b443C e4444 b443C e4444 b443C e4444 b443C e4444 b46DC e4444 b443C e4444 b443C e4444 b443C",
    "e4444 b443C e4444 b46DC e41A4 b46DC e4444 b443C e4444 b443C e4444 b443C e4444 b443C e4444",
    "b46DC e41A4 b46DC e4444 b443C e4444 b443C e4444 b443C e3C64 b4C1C e3C64 b4EBC e39C4 b4EBC",
    "e39C4 b4EBC e3C64 b4C1C e3C64 b4C1C e3C64 b4EBC e39C4 b4EBC e39C4 b4EBC e3C64 b4C1C e3C64",
    "b4C1C e3C64 b4C1C e3C64 b4EBC e39C4 b4EBC e39C4 b4EBC e3C64 b4C1C e3C64 b4C1C e3C64 b4EBC",
    "e39C4 b4EBC e39C4 b4EBC e31E4"],
   ["America/New_York EST5EDT,M3.2.0,M11.1.0",
    "-17762:LMT,-18000:EST,-14400:EDT,-14400:EWT,-14400:EPT b638DE4 c126278 b4EBC c39C4 b4EBC",
    "c39C4 b515C c41A4 b39BC c5164 b371C c5164 b39BC c4EC4 b39BC c4EC4 b39BC c4EC4 b39BC c4EC4",
    "b39BC c5164 b39BC c4EC4 b39BC c4EC4 b39BC c4EC4 b39BC c4EC4 b39BC c5164 b371C c5164 b39BC",
    "c4EC4 b39BC c4EC4 b39BC c4EC4 b39BC c4EC4 b39BC c5164 b371C c5164 b39BC c4EC4 b39BC d3244",
    "e1E100 b115C c4EC4 b39BC c4EC4 b39BC c4EC4 b39BC c4EC4 b39BC c5164 b371C c5164 b39BC c4EC4",
    "b39BC c4EC4 b39BC c4EC4 b39BC c4EC4 b46DC c4444 b443C c4444 b443C c4444 b443C c4444 b443C",
    "c4444 b46DC c4444 b443C c4444 b443C c4444 b443C c4444 b443C c4444 b46DC c41A4 b46DC c4444",
    "b443C c4444 b443C c4444 b443C c4444 b443C c4444 b46DC c4444 b443C c4444 b443C c1A44 b6E3C",
    "c2CA4 b5BDC c4444 b46DC c41A4 b46DC c4444 b443C c4444 b443C c4444 b443C c4444 b443C c4444",
    "b46DC c41A4 b46DC c4444 b443C c4444 b443C c4444 b443C c3C64 b4C1C c3C64 b4EBC c39C4 b4EBC",
    "c39C4 b4EBC c3C64 b4C1C c3C64 b4C1C c3C64 b4EBC c39C4 b4EBC c39C4 b4EBC c3C64 b4C1C c3C64",
    "b4C1C c3C64 b4C1C c3C64 b4EBC c39C4 b4EBC c39C4 b4EBC c3C64 b4C1C c3C64 b4C1C c3C64 b4EBC",
    "c39C4 b4EBC c39C4 b4EBC c31E4"],
   ["America/Nome AKST9AKDT,M3.2.0,M11.1.0",
    "46702:LMT,-39698:LMT,-39600:NST,-36000:NWT,-36000:NPT,-39600:BST,-36000:BDT,-32400:YST,-32400:AKST,-28800:AKDT",
    "B13FBDE2D1 C3DC45201 D4E01F4FE e1E0E8 c1174 fB80DC g11BE8 f443C g4444 f443C g4444 f46DC",
    "g4444 f443C g4444 f443C g1A44 f6E3C g2CA4 f5BDC g4444 f46DC g41A4 f46DC g4444 f443C g4444",
    "f443C g4444 f443C g4444 f443C g4444 f46DC g41A4 h46DC iB94 j38A8 i443C j4444 i443C j4444",
    "i443C j3C64 i4C1C j3C64 i4EBC j39C4 i4EBC j39C4 i4EBC j3C64 i4C1C j3C64 i4C1C j3C64 i4EBC",
    "j39C4 i4EBC j39C4 i4EBC j3C64 i4C1C j3C64 i4C1C j3C64 i4C1C j3C64 i4EBC j39C4 i4EBC j39C4",
    "i4EBC j3C64 i4C1C j3C64 i4C1C j3C64 i4EBC j39C4 i4EBC j39C4 i4EBC j31E4"],
   ["America/Noronha <-02>2 -7780:LMT,-7200:-02,-3600:-01 B196A54A64 C2164D66C b43B0 c4564 b437C",
    "c8EB04 b3300 c55E0 b2D5C c5B84 b2DBC c5B84 b21BC c5C3A4 b1F1C c7E04 b161C c5BE4 b21BC c5BE4",
    "b2CFC c5BE4 b2D5C c974A4 b31DC c5404 b29FC c5EE4 b275C c5E84 b275C c6124 b2C9C c52864 b371C",
    "c5404 b29C c8884 b2F3C"],
   ["America/North_Dakota/Beulah CST6CDT,M3.2.0,M11.1.0",
    "-24427:LMT,-25200:MST,-21600:MDT,-21600:MWT,-21600:MPT,-21600:CST b638DEC c126278 b4EBC",
    "c39C4 b4EBC dBED44 e1E0F8 b1164 cB8BC4 b443C c4444 b443C c4444 b443C c4444 b443C c4444 b46DC",
    "c4444 b443C c4444 b443C c1A44 b6E3C c2CA4 b5BDC c4444 b46DC c41A4 b46DC c4444 b443C c4444",
    "b443C c4444 b443C c4444 b443C c4444 b46DC c41A4 b46DC c4444 b443C c4444 b443C c4444 b443C",
    "c3C64 b4C1C c3C64 b4EBC c39C4 b4EBC c39C4 b4EBC c3C64 b4C1C c3C64 b4C1C c3C64 b4EBC c39C4",
    "b4EBC c39C4 b4EBC c3C64 b4C1C c3C64 b4C1C c3C64 b4C1C c3C64 b4EBC c39C4 b4EBC c39C4 b4EBC",
    "c3C64 b4C1C c3C64 b4C1C c3C64 b4EBC c39C4 b4EBC c39C4 b4EBC c31E4 b593C c2F44 b593C c2F44",
    "b593C c31E4 f593C"],
   ["America/North_Dakota/Center CST6CDT,M3.2.0,M11.1.0",
    "-24312:LMT,-25200:MST,-21600:MDT,-21600:MWT,-21600:MPT,-21600:CST,-18000:CDT b638DEC c126278",
    "b4EBC c39C4 b4EBC dBED44 e1E0F8 b1164 cB8BC4 b443C c4444 b443C c4444 b443C c4444 b443C c4444",
    "b46DC c4444 b443C c4444 b443C c1A44 b6E3C c2CA4 b5BDC c4444 b46DC c41A4 b46DC c4444 b443C",
    "c4444 b443C c4444 b443C c4444 b443C c4444 b46DC c41A4 b46DC c4444 b443C c4444 b443C c4444",
    "b443C c3C64 b4C1C c3C64 b4EBC c39C4 b4EBC c39C4 b4EBC c3C64 b4C1C c3C64 f4C1C g3C60 f4EBC",
    "g39C4 f4EBC g39C4 f4EBC g3C64 f4C1C g3C64 f4C1C g3C64 f4C1C g3C64 f4EBC g39C4 f4EBC g39C4",
    "f4EBC g3C64 f4C1C g3C64 f4C1C g3C64 f4EBC g39C4 f4EBC g39C4 f4EBC g31E4"],
   ["America/North_Dakota/New_Salem CST6CDT,M3.2.0,M11.1.0",
    "-24339:LMT,-25200:MST,-21600:MDT,-21600:MWT,-21600:MPT,-21600:CST,-18000:CDT b638DEC c126278",
    "b4EBC c39C4 b4EBC dBED44 e1E0F8 b1164 cB8BC4 b443C c4444 b443C c4444 b443C c4444 b443C c4444",
    "b46DC c4444 b443C c4444 b443C c1A44 b6E3C c2CA4 b5BDC c4444 b46DC c41A4 b46DC c4444 b443C",
    "c4444 b443C c4444 b443C c4444 b443C c4444 b46DC c41A4 b46DC c4444 b443C c4444 b443C c4444",
    "b443C c3C64 b4C1C c3C64 b4EBC c39C4 b4EBC c39C4 b4EBC c3C64 b4C1C c3C64 b4C1C c3C64 b4EBC",
    "c39C4 b4EBC c39C4 b4EBC c3C64 b4C1C c3C64 b4C1C c3C64 b4C1C c3C64 b4EBC c39C4 b4EBC c39C4",
    "b4EBC c3C64 b4C1C c3C64 f4C1C g3C60 f4EBC g39C4 f4EBC g39C4 f4EBC g31E4"],
   ["America/Nuuk <-02>2<-01>,M3.5.0/-1,M10.5.0/0 -12416:LMT,-10800:-03,-7200:-02,-3600:-01",
    "B19B7B4D00 C77CD1450 b4190 c4440 b4440 c4440 b4440 c4440 b4440 c4440 b46E0 c4440 b4440 c4440",
    "b4440 c4440 b4440 c4440 b4440 c4440 b4440 c4440 b46E0 c4440 b4440 c4440 b4440 c4440 b4440",
    "c4440 b4440 c4440 b4440 c46E0 b4EC0 c39C0 b4EC0 c39C0 b4EC0 c39C0 b5160 c3720 b5160 c3720",
    "b5160 c39C0 b4EC0 c39C0 b4EC0 c39C0 b5160 c3720 b5160 c3720 b5160 c3720 b5160 c39C0 b4EC0",
    "c39C0 b4EC0 c39C0 b5160 c3720 b5160 c3720 b5160 c39C0 b4EC0 c39C0 b4EC0 c39C0 b4EC0 c39C0",
    "b5160 c3720 b5160 c3720 b5160 c39C0 b4EC0 c39C0 b4EC0 c39C0 b5160 c3720 b5160 c3720 d8B20"],
   ["America/Ojinaga CST6CDT,M3.2.0,M11.1.0",
    "-25060:LMT,-25200:MST,-21600:CST,-21600:MDT,-18000:CDT b77F2DC c2E8C0 b1D63C d3E44 b39BC",
    "c44A4 e224044 c4C1C e3C64 c4C1C d3C68 b4C1C d3C64 b4EBC d39C4 b4EBC d46E4 b371C d46E4 b4C1C",
    "d3C64 b4C1C d3C64 b4EBC d39C4 b4EBC d39C4 b4EBC d39C4 b4EBC d3C64 b4C1C d3C64 b4C1C d3484",
    "b593C d2F44 b593C d2F44 b593C d2F44 b593C d2F44 b593C d2F44 b593C d31E4 b593C d2F44 b593C",
    "d2F44 b593C d2F44 b593C d2F44 b593C d31E4 b593C d2F44 c569C e31E0"],
   ["America/Panama EST5 -19088:LMT,-19176:CMT,-18000:EST B169820B10 C226D3BD8"],
   ["America/Paramaribo <-03>3 -13240:LMT,-13252:PMT,-13236:PMT,-12600:-0330,-10800:-03",
    "B1910073B8 C2D24BD0C D1437E0F0 E495C0504"],
   ["America/Phoenix MST7 -26898:LMT,-25200:MST,-21600:MDT,-21600:MWT b638DEC c126278 b4EBC c39C4",
    "b4EBC dBED44 B38ED28C d2224 b449C C2A775AF4 b443C"],
   ["America/Port-au-Prince EST5EDT,M3.2.0,M11.1.0 -17360:LMT,-17340:PPMT,-18000:EST,-14400:EDT",
    "B169820450 C32E752AC D7CACD4D4 c419C d4444 c443C d4444 c443C d4444 c443C d4444 c443C d3C68",
    "c4EC0 d39C0 c4EC0 d39C0 c4EC0 d3C60 c4C20 d3C60 c4C20 d3C60 c4EC0 d39C0 c4EC0 d39C0 c4EC0",
    "d3C60 c4C20 d3C60 c4C20 d3FA7C c4EBC d39C4 c4EBC d2DF0C c593C d2F44 c593C d2F44 c593C d2F44",
    "c593C dBA64"],
   ["America/Porto_Acre,America/Rio_Branco <-05>5 -16272:LMT,-18000:-05,-14400:-04 B196A56B90",
    "C2164DF70 b43B0 c4564 b437C c8EB04 b3300 c55E0 b2D5C c5B84 b2DBC c5B84 b21BC c5C3A4 b1F1C",
    "c7E04 b161C c5BE4 b21BC c5BE4 b2CFC c5BE4 b2D5C c974A4 b31DC c5404 b29FC c5EE4 b275C cAE724",
    "b2E0DC"],
   ["America/Porto_Velho <-04>4 -15336:LMT,-14400:-04,-10800:-03 B196A567E8 C2164D508 b43B0 c4564",
    "b437C c8EB04 b3300 c55E0 b2D5C c5B84 b2DBC c5B84 b21BC c5C3A4 b1F1C c7E04 b161C c5BE4 b21BC",
    "c5BE4 b2CFC c5BE4 b2D5C c974A4 b31DC c5404 b29FC c5EE4 b275C"],
   ["America/Puerto_Rico AST4 -15865:LMT,-14400:AST,-10800:AWT,-10800:APT B17AE17AB9 C510F9D07",
    "d1C1EC b1158"],
   ["America/Punta_Arenas <-03>3 -17020:LMT,-16965:SMT,-18000:-05,-14400:-04,-10800:-03",
    "B1698202FC C25A92949 BC2C9E0B D41FFD75 B1838EFB DF5E0605 C118C57B d3964 c4F7C d3964 c4F7C",
    "d3964 c4F7C d3964 c4FDC d3964 c536FC d16E4 c27EFC d1320 eB7A80 d371C e5944 d2F3C e4984 d39BC",
    "e4EC4 d39BC e5164 d371C e4C24 d3C5C e5164 d371C e5164 d39BC e4EC4 d39BC e4EC4 d39BC e5164",
    "d371C e5164 d371C e5164 d39BC e4EC4 d39BC e4EC4 d39BC e4EC4 d39BC e5164 d371C e5164 d371C",
    "e5164 d443C e4444 d39BC e4EC4 d39BC e5164 d371C e46E4 d419C e5164 d39BC e4EC4 d39BC e4EC4",
    "d39BC e4EC4 d39BC e5164 d371C e5164 d3EFC e4984 d39BC e4984 d46DC e46E4 d39BC e5164 d371C",
    "e5164 d371C e5164 d371C e5164 d39BC e4EC4 d39BC e4EC4 d39BC e5164 d371C e5164 d3EFC e4984",
    "d39BC e4EC4 d419C e46E4 d4EBC e2764 d5E7C e2F44 d593C e31E4 d569C e31E4 dE6FC e2224"],
   ["America/Rainy_River,America/Winnipeg CST6CDT,M3.2.0,M11.1.0",
    "-23316:LMT,-21600:CST,-18000:CDT,-18000:CWT,-18000:CPT B164DF9594 C361D4B4C b371C cD74C",
    "b497C c9ED04 b31DC d256E4 e1E0FC b1160 c5404 b39BC c4984 b39BC c4EC4 b39BC c4EC4 b39BC c51C4",
    "b38FC c4F24 b39BC c4EC4 b39BC c4EC4 b39BC c4EC4 b39BC c4EC4 b39BC c5164 b39BC c4EC4 b39BC",
    "c4EC4 b39BC c4EC4 b443C c4444 b39BC c16264 b371C c16264 b46E0 c4440 b4440 c4440 b4440 c4440",
    "b4440 c4440 b4440 c4440 b46E0 c4440 b4440 c4440 b4440 c4440 b4440 c4440 b4440 c4440 b46E0",
    "c41A0 b46E0 c4440 b4440 c4440 b4440 c4440 b4440 c4440 b4440 c4440 b46E0 c41A0 b46E0 c4440",
    "b4440 c4440 b4440 c4440 b4440 c3C60 b4C20 c3C60 b4EC0 c39C0 b4EC0 c39C0 b4EC0 c3C60 b4C20",
    "c3C60 b4C20 c3C60 b4EC0 c39C0 b4EC0 c39C0 b4EC0 c3C60 b4C20 c3C60 b4C20 c3C60 b4C20 c3C60",
    "b4EC0 c39C0 b4EC0 c39C0 b4EC0 c3C60 b4C20 c3C60 b4C20 c3C60 b4EC0 c39C0 b4EC0 c39C0 b4EBC",
    "c31E4"],
   ["America/Rankin_Inlet CST6CDT,M3.2.0,M11.1.0 0:-00,-21600:CST,-18000:CDT,-18000:EST b8AACC0",
    "c83360 b443C c4444 b443C c4444 b443C c4444 b443C c4444 b46DC c41A4 b46DC c4444 b443C c4444",
    "b443C c4444 b443C c4444 b443C c4444 b46DC c41A4 b46DC c4444 b443C c4444 b443C c4444 b443C",
    "c3C64 b4C1C c3C64 b4EBC c39C4 b4EBC c39C4 b4EBC c3C64 b4C1C c3C64 b4C1C c3C64 b4EBC c39C4",
    "b4EBC c39C4 b4EBC c3C64 b4C1C c3C64 b4C1C c3C64 b4C1C c3C64 b4EBC c39C4 d4EBC c39C4 b4EBC",
    "c3C64 b4C1C c3C64 b4C1C c3C64 b4EBC c39C4 b4EBC c39C4 b4EBC c31E4"],
   ["America/Recife <-03>3 -8376:LMT,-10800:-03,-7200:-02 B196A54CB8 C2164E228 b43B0 c4564 b437C",
    "c8EB04 b3300 c55E0 b2D5C c5B84 b2DBC c5B84 b21BC c5C3A4 b1F1C c7E04 b161C c5BE4 b21BC c5BE4",
    "b2CFC c5BE4 b2D5C c974A4 b31DC c5404 b29FC c5EE4 b275C c5E84 b275C c6124 b2C9C c52864 b371C",
    "c5404 b29C c8884 b2F3C"],
   ["America/Regina CST6 -25116:LMT,-25200:MST,-21600:MDT,-21600:MWT,-21600:MPT,-21600:CST",
    "B186F8781C C17BB1C74 b497C c6299C b39BC c4EC4 b39BC c4EC4 b39BC c5164 b371C c5164 b39BC",
    "c157E4 b443C c4444 b419C c46E4 b443C c46E4 b443C c4444 b443C d2D0C e1E0F8 b1164 c4984 b443C",
    "c4984 b39BC c4EC4 b39BC c4EC4 b39BC c5164 b371C c5164 b39BC c4EC4 b39BC c4EC4 b39BC c4EC4",
    "b39BC c4EC4 b39BC c5164 b39BC c4EC4 b39BC cD744 b443C f4444"],
   ["America/Resolute CST6CDT,M3.2.0,M11.1.0 0:-00,-21600:CST,-18000:CDT,-18000:EST b85ADA0",
    "cD3280 b443C c4444 b443C c4444 b443C c4444 b443C c4444 b46DC c41A4 b46DC c4444 b443C c4444",
    "b443C c4444 b443C c4444 b443C c4444 b46DC c41A4 b46DC c4444 b443C c4444 b443C c4444 b443C",
    "c3C64 b4C1C c3C64 b4EBC c39C4 b4EBC c39C4 b4EBC c3C64 b4C1C c3C64 b4C1C c3C64 b4EBC c39C4",
    "b4EBC c39C4 b4EBC c3C64 b4C1C c3C64 b4C1C c3C64 b4C1C c3C64 b4EBC c39C4 d4EBC c39C4 b4EBC",
    "c3C64 b4C1C c3C64 b4C1C c3C64 b4EBC c39C4 b4EBC c39C4 d4EBC c31E4"],
   ["America/Santarem <-03>3 -13128:LMT,-14400:-04,-10800:-03 B196A55F48 C2164DDA8 b43B0 c4564",
    "b437C c8EB04 b3300 c55E0 b2D5C c5B84 b2DBC c5B84 b21BC c5C3A4 b1F1C c7E04 b161C c5BE4 b21BC",
    "c5BE4 b2CFC c5BE4 b2D5C c974A4 b31DC c5404 b29FC c5EE4 b275C cAE724"],
   ["America/Santiago <-04>4<-03>,M9.1.6/24,M4.1.6/24",
    "-16965:LMT,-16965:SMT,-18000:-05,-14400:-04,-10800:-03 B1698202C5 cAB660 BC2C9E0B D41FFD75",
    "B1838EFB DF5E0605 C118C57B d3964 c4F7C d3964 c4F7C d3964 c4F7C d3964 c4FDC d3964 c536FC",
    "d16E4 e21D7C d10DC c50A4 d1320 eB7A80 d371C e5944 d2F3C e4984 d39BC e4EC4 d39BC e5164 d371C",
    "e4C24 d3C5C e5164 d371C e5164 d39BC e4EC4 d39BC e4EC4 d39BC e5164 d371C e5164 d371C e5164",
    "d39BC e4EC4 d39BC e4EC4 d39BC e4EC4 d39BC e5164 d371C e5164 d371C e5164 d443C e4444 d39BC",
    "e4EC4 d39BC e5164 d371C e46E4 d419C e5164 d39BC e4EC4 d39BC e4EC4 d39BC e4EC4 d39BC e5164",
    "d371C e5164 d3EFC e4984 d39BC e4984 d46DC e46E4 d39BC e5164 d371C e5164 d371C e5164 d371C",
    "e5164 d39BC e4EC4 d39BC e4EC4 d39BC e5164 d371C e5164 d3EFC e4984 d39BC e4EC4 d419C e46E4",
    "d4EBC e2764 d5E7C e2F44 d593C e31E4 d569C e31E4 dE6FC e2224 d665C e2224 d665C e2224 d593C",
    "e39C4 d4EBC e39C4 d4EBC e39C4 d4EBC e3C64"],
   ["America/Santo_Domingo AST4",
    "-16776:LMT,-16800:SDMT,-18000:EST,-14400:EDT,-16200:-0430,-14400:AST B169820208 C51582558",
    "D3F290970 c2D5C e16C24 c2C3E e5C42 c209E e6A82 c1EBE e69C2 c1F7E e6902 c1FDE f68A2 cDEA24",
    "fD20"],
   ["America/Sao_Paulo <-03>3 -11188:LMT,-10800:-03,-7200:-02 B196A557B4 C2164D72C b43B0 c4564",
    "b437C c8EB04 b3300 c55E0 b2D5C c5B84 b2DBC c5B84 b21BC c5B204 b30BC c7E04 b161C c5BE4 b21BC",
    "c5BE4 b2CFC c5BE4 b2D5C c974A4 b31DC c5404 b29FC c5EE4 b275C c5E84 b275C c6124 b2C9C c5E84",
    "b2C9C c5BE4 b29FC c6124 b24BC c6124 b2F3C c5944 b2F3C c5944 b2C9C c5944 b31DC c5704 b36BC",
    "c5404 b31DC c5404 b371C c5404 b31DC c5944 b2F3C c6124 b275C c5BE4 b2C9C c61E4 b293C c5944",
    "b2F3C c6124 b29FC c56A4 b2F3C c5BE4 b2C9C c5BE4 b2F3C c5944 b2F3C c5944 b31DC c5944 b2C9C",
    "c5BE4 b2C9C c5BE4 b2F3C c5944 b2F3C c5944 b2F3C c5944 b2F3C c6124 b275C"],
   ["America/Scoresbysund <-02>2<-01>,M3.5.0/-1,M10.5.0/0 -5272:LMT,-7200:-02,-3600:-01,0:+00",
    "B19B7B3118 C77CD2228 b41A0 d4438 c443C d4440 c4440 d4440 c4440 d4440 c46E0 d4440 c4440 d4440",
    "c4440 d4440 c4440 d4440 c4440 d4440 c4440 d4440 c46E0 d4440 c4440 d4440 c4440 d4440 c4440",
    "d4440 c4440 d4440 c4440 d46E0 c4EC0 d39C0 c4EC0 d39C0 c4EC0 d39C0 c5160 d3720 c5160 d3720",
    "c5160 d39C0 c4EC0 d39C0 c4EC0 d39C0 c5160 d3720 c5160 d3720 c5160 d3720 c5160 d39C0 c4EC0",
    "d39C0 c4EC0 d39C0 c5160 d3720 c5160 d3720 c5160 d39C0 c4EC0 d39C0 c4EC0 d39C0 c4EC0 d39C0",
    "c5160 d3720 c5160 d3720 c5160 d39C0 c4EC0 d39C0 c4EC0 d39C0 c5160 d3720 c5160 d3720 c5160",
    "b8880"],
   ["America/Sitka AKST9AKDT,M3.2.0,M11.1.0",
    "53927:LMT,-32473:LMT,-28800:PST,-25200:PWT,-25200:PPT,-25200:PDT,-32400:YST,-32400:AKST,-28800:AKDT",
    "B13FBDE2D1 c1191B2 D4E01E707 e1E0F4 c1168 fC9CC4 c443C f4444 c443C f4444 c46DC f4444 c443C",
    "f4444 c443C f1A44 c6E3C f2CA4 c5BDC f4444 c46DC f41A4 c46DC f4444 c443C f4444 c443C f4444",
    "c443C f4444 c443C f4444 c46DC f41A4 g46DC hBA0 i38A8 h443C i4444 h443C i4444 h443C i3C64",
    "h4C1C i3C64 h4EBC i39C4 h4EBC i39C4 h4EBC i3C64 h4C1C i3C64 h4C1C i3C64 h4EBC i39C4 h4EBC",
    "i39C4 h4EBC i3C64 h4C1C i3C64 h4C1C i3C64 h4C1C i3C64 h4EBC i39C4 h4EBC i39C4 h4EBC i3C64",
    "h4C1C i3C64 h4C1C i3C64 h4EBC i39C4 h4EBC i39C4 h4EBC i31E4"],
   ["America/St_Johns NST3:30NDT,M3.2.0,M11.1.0",
    "-12652:LMT,-12652:NST,-9052:NDT,-12600:NST,-9000:NDT,-9000:NWT,-9000:NPT,-5400:NDDT",
    "B15E3819EC c11CC48 b3CBC c4E64 b497C c4798 b251C c6304 b443C c4444 b443C c46E4 b419C c46E4",
    "b419C c46E4 b419C c46E4 b419C c46E4 b443C c4444 b443C c46E4 b419C c46E4 b419C c46E4 b419C",
    "c46E4 b419C c46E4 b443C c46E4 b419C c46E4 b419C d3908 E30B93C d419C e4988 d371C e5164 d371C",
    "e5164 d371C e5404 d347C e5404 d371C e5164 d371C f5164 g1BEEE d1156 e5404 d371C e5164 d371C",
    "e5164 d371C e5164 d371C e5404 d371C e4C24 d39BC e4EC4 d39BC e4EC4 d39BC e4EC4 d39BC e4EC4",
    "d39BC e5164 d39BC e4EC4 d39BC e4EC4 d39BC e4EC4 d39BC e4EC4 d46DC e4444 d443C e4444 d443C",
    "e4444 d443C e4444 d443C e4444 d46DC e41A4 d46DC e4444 d443C e4444 d443C e4444 d443C e4444",
    "d443C e4444 d46DC e4444 d443C e4444 d443C e4444 d443C e4444 d443C e4444 d46DC e41A4 d46DC",
    "e4444 d443C e4444 d443C e4444 d443C e4444 d443C e4444 d46DC e41A4 d46DC e4444 d443C e4444",
    "d443C e4444 d443C ED433AC d4C1C h3C64 d4EB8 e39C8 d4EBC e39C4 d4EBC e3C64 d4C1C e3C64 d4C1C",
    "e3C64 d4EBC e39C4 d4EBC e39C4 d4EBC e3C64 d4C1C e3C64 d4C1C e3C64 d4C1C e3C64 d4EBC e39C4",
    "d4EBC e39C4 d4EBC e3C64 d4C1C e3C64 d4C1C e3C64 d4EBC e39C4 d4EBC e39C4 d4EBC e31E4 d593C",
    "e2F44 d593C e2F44 d593C e31E4 d593C e2F44 D139D2D4"],
   ["America/St_Kitts AST4 -15052:LMT,-14400:AST B1933219CC"],
   ["America/St_Lucia AST4 -14640:LMT,-14640:CMT,-14400:AST B16981F9B0 cBC4C0"],
   ["America/St_Thomas,America/Virgin AST4 -15584:LMT,-14400:AST B191EF1C60"],
   ["America/St_Vincent AST4 -14696:LMT,-14696:KMT,-14400:AST B16981F9E8 cBC4C0"],
   ["America/Swift_Current CST6 -25880:LMT,-25200:MST,-21600:MDT,-21600:MWT,-21600:MPT,-21600:CST",
    "B186F87B18 C17BB1978 b497C dC75C4 e1E0F8 b1164 c4EC4 b3EFC c4984 b39BC c4EC4 b39BC c4EC4",
    "b39BC c40F84 b443C cCCC4 b443C c4444 b39BC c5164 b371C f5ABA4"],
   ["America/Tegucigalpa CST6 -20932:LMT,-21600:CST,-18000:CDT B1A4473044 C7C4E919C b371C c5164",
    "b371C c96C64 b227C"],
   ["America/Thule AST4ADT,M3.2.0,M11.1.0 -16508:LMT,-14400:AST,-10800:ADT B19B7B5CFC C8C7502E4",
    "b443C c4444 b443C c46E4 b4EBC c39C4 b4EBC c39C4 b4EBC c3C64 b4C1C c3C64 b4C1C c3C64 b4C1C",
    "c3C64 b4EBC c39C4 b4EBC c39C4 b4EBC c3C64 b4C1C c3C64 b4C1C c3C64 b4EBC c39C4 b4EBC c39C4",
    "b4EBC c31E4"],
   ["America/Tortola AST4 -15508:LMT,-14400:AST B191EF1C14"],
   ["America/Vancouver PST8PDT,M3.2.0,M11.1.0",
    "-29548:LMT,-28800:PST,-25200:PDT,-25200:PWT,-25200:PPT B15E385BEC C407B46B4 b497C dC75C4",
    "e1E0F4 b1168 c4EC4 b39BC c4EC4 b39BC c4EC4 b39BC c4EC4 b39BC c5164 b371C c5164 b39BC c4EC4",
    "b39BC c4EC4 b39BC c4EC4 b39BC c4EC4 b39BC c5164 b39BC c4EC4 b39BC c4EC4 b39BC c4EC4 b39BC",
    "c4EC4 b39BC c5164 b371C c5164 b443C c4444 b443C c4444 b443C c4444 b46DC c41A4 b46DC c4444",
    "b443C c4444 b443C c4444 b443C c4444 b443C c4444 b46DC c4444 b443C c4444 b443C c4444 b443C",
    "c4444 b443C c4444 b46DC c41A4 b46DC c4444 b443C c4444 b443C c4444 b443C c4444 b443C c4444",
    "b46DC c41A4 b46DC c4444 b443C c4444 b443C c4444 b443C c3C64 b4C1C c3C64 b4EBC c39C4 b4EBC",
    "c39C4 b4EBC c3C64 b4C1C c3C64 b4C1C c3C64 b4EBC c39C4 b4EBC c39C4 b4EBC c3C64 b4C1C c3C64",
    "b4C1C c3C64 b4C1C c3C64 b4EBC c39C4 b4EBC c39C4 b4EBC c3C64 b4C1C c3C64 b4C1C c3C64 b4EBC",
    "c39C4 b4EBC c39C4 b4EBC c31E4"],
   ["America/Whitehorse MST7",
    "-32412:LMT,-32400:YST,-28800:YDT,-28800:YWT,-28800:YPT,-25200:YDDT,-28800:PST,-25200:PDT,-25200:MST",
    "B17D816F9C C21324114 b497C c4EC4 b3BF4 dBEB0C e1E0F0 b116C fA781C b46E0 g2CA0 h793E4 g443C",
    "h4444 g443C h4444 g46DC h41A4 g46DC h4444 g443C h4444 g443C h4444 g443C h3C64 g4C1C h3C64",
    "g4EBC h39C4 g4EBC h39C4 g4EBC h3C64 g4C1C h3C64 g4C1C h3C64 g4EBC h39C4 g4EBC h39C4 g4EBC",
    "h3C64 g4C1C h3C64 g4C1C h3C64 g4C1C h3C64 g4EBC h39C4 g4EBC h39C4 g4EBC h3C64 g4C1C h3C64",
    "g4C1C h3C64 g4EBC h39C4 g4EBC h39C4 g4EBC h31E4 g593C h2F44 g593C h2F44 g593C h31E4 g593C",
    "h2F44 g593C h2F44 g593C h2F44 g593C h2F44 g593C h2F44 g593C h31E4 g593C h2F44 g593C h2F44",
    "g593C h2F44 g593C h2F44 i5934"],
   ["America/Yakutat AKST9AKDT,M3.2.0,M11.1.0",
    "52865:LMT,-33535:LMT,-32400:YST,-28800:YWT,-28800:YPT,-28800:YDT,-32400:AKST,-28800:AKDT",
    "B13FBDE2D1 C3DC439EE D4E01F0F1 e1E0F0 c116C fC9CC4 c443C f4444 c443C f4444 c46DC f4444 c443C",
    "f4444 c443C f1A44 c6E3C f2CA4 c5BDC f4444 c46DC f41A4 c46DC f4444 c443C f4444 c443C f4444",
    "c443C f4444 c443C f4444 c46DC f41A4 c46DC gB9C h38A8 g443C h4444 g443C h4444 g443C h3C64",
    "g4C1C h3C64 g4EBC h39C4 g4EBC h39C4 g4EBC h3C64 g4C1C h3C64 g4C1C h3C64 g4EBC h39C4 g4EBC",
    "h39C4 g4EBC h3C64 g4C1C h3C64 g4C1C h3C64 g4C1C h3C64 g4EBC h39C4 g4EBC h39C4 g4EBC h3C64",
    "g4C1C h3C64 g4C1C h3C64 g4EBC h39C4 g4EBC h39C4 g4EBC h31E4"]]

end Inlay.Time.Zones
