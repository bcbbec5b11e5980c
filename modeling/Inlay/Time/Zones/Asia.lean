/-!
# Zones of Asia

Records of time zones, as the zone reader takes them: the names of a zone, its
yearly rule, its local times and its changes.
-/

namespace Inlay.Time.Zones

def asiaRecords : List (List String) :=
  [["Asia/Aden <+03>-3 10794:LMT,10800:+03 B1DA5C1D56"],
   ["Asia/Almaty <+05>-5 18468:LMT,18000:+05,21600:+06,25200:+07 B1AA1460DC CB8A7354 d1B2B1C",
    "c449C d4444 c449C d4444 c449C d44A4 c4448 d4440 c4440 d4440 c4440 d4440 c4440 d4440 c4440",
    "d4440 c4440 d4440 c46E0 b8884 c2A00 d1A3C c4440 d4440 c4440 d4440 c4440 d4440 c4440 d46E0",
    "c4EC0 d39C0 c4EC0 d39C0 c4EC0 d39C0 c5160 d3720 c5160 d3720 c5160 d39C0 c4EC0 d39C0 c4EC0",
    "d39C0 c5160 bA57D8"],
   ["Asia/Amman <+03>-3 8624:LMT,7200:EET,10800:EEST,10800:+03 B1B69EBBD0 C4FCEA310 b2BDC c4F84",
    "b395C c4F84 b395C c4FE4 b44FC c43E4 b395C c4F24 b395C c37AA4 b449C c4564 b443C c4444 b443C",
    "c4444 b46DC c4FE4 b389C c4C24 b3C5C c48C4 b3D1C c4984 b419C c4444 b443C c4444 b3EFC c4C24",
    "b3C60 c4C20 b3F00 c4980 b3F00 c4980 b3F00 c6B40 b1FE0 c4680 b44A0 c43E0 b44A0 c4440 b4440",
    "c4440 b4EC0 c39C0 b4C20 c3F00 b4440 c4440 b4EC0 c39C0 b4EC0 c39C0 b5160 c3720 b5160 c3720",
    "b5160 c39C0 b4EC0 c39C0 bEC3C c24C4 b5160 c3720 b5160 c39C0 b4EC0 c39C0 b4EC0 c39C0 b4EC0",
    "c39C0 b4EC0 c39C0 b5160 c3720 b5160 c2CA0 d5BE0"],
   ["Asia/Anadyr <+12>-12 42596:LMT,43200:+12,46800:+13,50400:+14,39600:+11 B1AA14029C CB8A6F24",
    "d1B2B1C c449C b88E4 c4444 b449C c44A4 b4448 c4440 b4440 c4440 b4440 c4440 b4440 c4440 b4440",
    "c4440 b4440 c4440 b46E0 e8884 b2A00 c1A3C b4440 c4440 b4440 c4440 b4440 c4440 b4440 c46E0",
    "b4EC0 c39C0 b4EC0 c39C0 b4EC0 c39C0 b5160 c3720 b5160 c3720 b5160 c39C0 b4EC0 c39C0 b4EC0",
    "c39C0 b5160 c3720 b5160 c3720 b5160 c3720 b5160 c39C0 b4EC0 c39C0 b4EC0 e8B24 b3720"],
   ["Asia/Aqtau <+05>-5 12064:LMT,14400:+04,18000:+05,21600:+06 B1AA1479E0 CB8A6860 d1B6FBC c88DC",
    "d4444 c449C d44A4 c4448 d4440 c4440 d4440 c4440 d4440 c4440 d4440 c4440 d4440 c4440 d4440",
    "c46E0 b8884 c2A00 d1A3C c4440 d4440 c4440 d4440 b4440 c4444 b4440 c46E0 b4EC0 c39C0 b4EC0",
    "c39C0 b4EC0 c39C0 b5160 c3720 b5160 c3720 b5160 c39C0 b4EC0 c39C0 b4EC0 c39C0"],
   ["Asia/Aqtobe <+05>-5 13720:LMT,14400:+04,18000:+05,21600:+06 B1AA147368 CB8A6ED8 d1B2B1C",
    "cCD7C d4444 c449C d44A4 c4448 d4440 c4440 d4440 c4440 d4440 c4440 d4440 c4440 d4440 c4440",
    "d4440 c46E0 b8884 c2A00 d1A3C c4440 d4440 c4440 d4440 c4440 d4440 c4440 d46E0 c4EC0 d39C0",
    "c4EC0 d39C0 c4EC0 d39C0 c5160 d3720 c5160 d3720 c5160 d39C0 c4EC0 d39C0 c4EC0 d39C0 c5160"],
   ["Asia/Ashgabat <+05>-5 14012:LMT,14400:+04,18000:+05,21600:+06 B1AA147244 CB8A6FFC d1B2B1C",
    "c449C d4444 c449C d4444 c449C d44A4 c4448 d4440 c4440 d4440 c4440 d4440 c4440 d4440 c4440",
    "d4440 c4440 d4440 c46E0 b8884 c2A00"],
   ["Asia/Atyrau <+05>-5 12464:LMT,10800:+03,18000:+05,21600:+06,14400:+04 B1AA147850 CB8A7800",
    "d1B6FB8 c88DC d4444 c449C d44A4 c4448 d4440 c4440 d4440 c4440 d4440 c4440 d4440 c4440 d4440",
    "c4440 d4440 c46E0 e8884 c2A00 d1A3C c4440 d4440 c4440 d4440 c4440 d4440 c4440 d46E0 c4EC0",
    "d39C0 c4EC0 d39C0 c4EC0 e8B24 c3720 e5160 c3720 e5160 c39C0 e4EC0 c39C0 e4EC0 c39C0"],
   ["Asia/Baghdad <+03>-3 10660:LMT,10656:BMT,10800:+03,14400:+04 B1698196DC C34A98B04 D79002B70",
    "c395C d43E4 c44FC d44A4 c449C d4444 c43E4 d4440 c4440 d4440 c4440 d4440 c4440 d4440 c4440",
    "d4440 c46E0 d44A8 c44A0 d44A0 c44A0 d4440 c44A0 d4440 c44A0 d4440 c44A0 d44A0 c44A0 d4440",
    "c44A0 d4440 c44A0 d4440 c44A0 d44A0 c44A0 d4440 c44A0 d4440 c44A0 d4440 c44A0 d44A0 c44A0",
    "d4440 c44A0 d4440 c44A0 d4440 c44A0"],
   ["Asia/Bahrain <+03>-3 12140:LMT,12600:+0330,14400:+04,10800:+03 B1CA765194 C49BECB4 dF341E"],
   ["Asia/Baku <+04>-4 11964:LMT,10800:+03,14400:+04,18000:+05 B1AA147A44 C3DC0770C dCE2DC c449C",
    "d4444 c449C d4444 c449C d44A4 c4448 d4440 c4440 d4440 c4440 d4440 c4440 d4440 c4440 d4440",
    "c4440 d4440 c46E0 b8884 c4440 d224A8 c4EC0 d39BC c4EC0 d39C0 c4EC0 d39C0 c5160 d3720 c5160",
    "d3720 c5160 d39C0 c4EC0 d39C0 c4EC0 d39C0 c5160 d3720 c5160 d3720 c5160 d3720 c5160 d39C0",
    "c4EC0 d39C0 c4EC0 d39C0 c5160 d3720 c5160 d3720 c5160 d39C0 c4EC0 d39C0 c4EC0 d39C0 c4EC0"],
   ["Asia/Bangkok <+07>-7 24124:LMT,24124:BMT,25200:+07 B156B16AC4 c158880"],
   ["Asia/Barnaul <+07>-7 20100:LMT,21600:+06,25200:+07,28800:+08 B1A1D062FC C13CE6324 d1B2B1C",
    "c449C d4444 c449C d4444 c449C d44A4 c4448 d4440 c4440 d4440 c4440 d4440 c4440 d4440 c4440",
    "d4440 c4440 d4440 c46E0 b8884 c2A00 d1A3C c4440 d4440 c4440 d4440 c4440 d4440 c1794 b2CB0",
    "c46E0 b4EC0 c39C0 b4EC0 c39C0 b4EC0 c39C0 b5160 c3720 b5160 c3720 b5160 c39C0 b4EC0 c39C0",
    "b4EC0 c39C0 b5160 c3720 b5160 c3720 b5160 c3720 b5160 c39C0 b4EC0 c39C0 b4EC0 c39C0 b5160",
    "c3720 b1EADC cC244"],
   ["Asia/Beirut EET-2EEST,M3.5.0/0,M10.5.0/0 8520:LMT,7200:EET,10800:EEST B156B1A7B8 C4BAEA128",
    "b4F1C c3C04 b449C c4144 b497C c4984 b371C c11FD64 b395C c4F84 b395C c4F84 b395C c4FE4 b395C",
    "c4F84 b395C c5BCE4 b25DC c4F84 b395C c4F84 b395C c4F84 b395C c4FE4 b395C c4F84 b395C c4F24",
    "b395C c2FD04 b3EFC c49E4 b3EFC c49E4 b3EFC c49E4 b3EFC c55E4 b335C c4D44 b3B9C c49E4 b3EFC",
    "c49E4 b3EFC c4A44 b3A7C c41A4 b443C c4444 b443C c4444 b443C c46E4 b443C c4444 b443C c4444",
    "b443C c4444"],
   ["Asia/Bishkek <+06>-6 17904:LMT,18000:+05,21600:+06,25200:+07 B1AA146310 CB8A7120 d1B2B1C",
    "c449C d4444 c449C d4444 c449C d44A4 c4448 d4440 c4440 d4440 c4440 d4440 c4440 d4440 c4440",
    "d4440 c4440 d4440 c46E0 b7DA0 c545C b3EFC c4984 b3EFC c4984 b3EFC c4984 b3EFC c4984 b419C",
    "c444E b4EBC c39C4 b4EBC c39C4 b515C c3724 b515C c3724 b515C c39C4 b4EBC c39C4 b4EBC c39C4",
    "b515C c3724"],
   ["Asia/Brunei <+08>-8 27580:LMT,27000:+0730,28800:+08 B1AD84E744 CCDD4544"],
   ["Asia/Chita <+09>-9 27232:LMT,28800:+08,32400:+09,36000:+10 B1A1D6DEA0 C13C7CB60 d1B2B1C",
    "c449C d4444 c449C d4444 c449C d44A4 c4448 d4440 c4440 d4440 c4440 d4440 c4440 d4440 c4440",
    "d4440 c4440 d4440 c46E0 b8884 c2A00 d1A3C c4440 d4440 c4440 d4440 c4440 d4440 c4440 d46E0",
    "c4EC0 d39C0 c4EC0 d39C0 c4EC0 d39C0 c5160 d3720 c5160 d3720 c5160 d39C0 c4EC0 d39C0 c4EC0",
    "d39C0 c5160 d3720 c5160 d3720 c5160 d3720 c5160 d39C0 c4EC0 d39C0 c4EC0 d39C0 c5160 d3720",
    "b1EADC cC248"],
   ["Asia/Choibalsan,Asia/Ulaanbaatar <+08>-8 25652:LMT,25200:+07,28800:+08,32400:+09 B186CED34C",
    "C8837EE44 d2CE7C c449C d44A4 c443C d4444 c443C d4444 c443C d4444 c443C d4444 c443C d4444",
    "c443C d4444 c46DC d4444 c443C d4444 c443C d4444 c443C d4444 c443C d4444 c443C d46E4 c443C",
    "d4444 c443C d4444 c443C d1620C c39BC d4444 c443C d4444 c443C d4444 c443C d4444 c443C d4444",
    "c46DC d48AE4 c4434 d444C c4434"],
   ["Asia/Chongqing,Asia/Harbin,Asia/Shanghai CST-8 29143:LMT,28800:CST,32400:CDT B17E312829",
    "C22615F57 b401C cB0EE4 b323C c3964 b56FC c21C4 b1EB3C c5FA4 b341C c4984 b4AFC c4444 b395C",
    "c4F84 bA1C c13C2CC b31DC c4EC4 b39BC c5164 b371C c5164 b39BC c4EC4 b39BC c4EC4 b39BC"],
   ["Asia/Colombo <+0530>-5:30 19164:LMT,19172:MMT,19800:+0530,21600:+06,23400:+0630 B156B17E24",
    "C30E723F8 D43BC5F0C e599E c1ABE6 e1B137C d39BE c510C2"],
   ["Asia/Damascus <+03>-3 8712:LMT,7200:EET,10800:EEST,10800:+03 B1A1ED9078 C8E8408 b3EFC c4984",
    "b3EFC c4984 b3EFC c4984 b419C c14A184 b3A1C c4F84 b38FC c5044 b395C c4F84 b38FC c4D44 b3BFC",
    "c4F84 b395C c4FE4 b395C c4F84 b395C c4F84 b395C c4F84 b395C c4FE4 b395C c4F84 b395C c4F84",
    "b395C c4F84 b395C c4FE4 b395C c4F84 b2E1C c5AC4 b2E1C c27664 b419C c47A4 b419C cBCA4 b581C",
    "c35A4 b5B7C c3304 b563C c38A4 b44FC c4444 b443C c449C b449C c4744 b41FC c4204 b449C c4684",
    "b449C c4444 b449C c44A4 b449C c43E4 b44FC c4384 b455C c4444 b449C c44A4 b449C c4444 b449C",
    "c4444 b449C c4444 b449C c44A4 b449C c4444 b449C c4444 b413C c46E4 b515C c39C4 b4F1C c36C4",
    "b515C c39C4 b4EBC c39C4 b4EBC c39C4 b4EBC c39C4 b4EBC c39C4 b515C c3724 b515C c3724 b515C",
    "c39C4 b4EBC c39C4 b4EBC c39C4 b4EBC c39C4 b515C c3724 b515C c3724 d515C"],
   ["Asia/Dhaka <+06>-6 21700:LMT,21200:HMT,23400:+0630,19800:+0530,21600:+06,25200:+07",
    "B169816BBC C6154FFF4 D129EA68 c28E4 e4DB7C f1EE21E e4920"],
   ["Asia/Dili <+09>-9 30140:LMT,28800:+08,32400:+09 b7298C0 c1020BC b124B60 cD0AA4"],
   ["Asia/Dubai <+04>-4 13272:LMT,14400:+04 B1A1ED7EA8"],
   ["Asia/Dushanbe <+05>-5 16512:LMT,18000:+05,21600:+06,25200:+07 B1AA146880 CB8A6BB0 d1B2B1C",
    "c449C d4444 c449C d4444 c449C d44A4 c4448 d4440 c4440 d4440 c4440 d4440 c4440 d4440 c4440",
    "d4440 c4440 d4440 c46E0 b8104"],
   ["Asia/Famagusta EET-2EEST,M3.5.0/3,M10.5.0/4 8148:LMT,7200:EET,10800:EEST,10800:+03",
    "B1A572032C C647691B4 b443C c5104 b37DC c4144 b419C c46E4 b449C c43E4 b443C c46E4 b419C c4444",
    "b443C c4444 b443C c4444 b443C c4444 b46DC c4444 b443C c4444 b443C c4444 b443C c4444 b443C",
    "c4444 b443C c4444 b46DC c4444 b443C c4444 b443C c4444 b443C c4444 b443C c4444 b443C c46E4",
    "b443C c4444 b443C c4444 b4ECC c39C0 b5160 c3720 b5160 c3720 b5160 c39C0 b4EC0 c39C0 b4EC0",
    "c39C0 b5160 c3720 b5160 c3720 b5160 c3720 b5160 c39C0 b4EC0 c39C0 b4EC0 c39C0 b5160 c3720",
    "b5160 c3720 b5160 c39C0 b4EC0 c39C0 b4EC0 c39C0 b4EC0 c39C0 d3DD0 b9C10"],
   ["Asia/Gaza EET-2EEST,M3.4.4/50,M10.4.4/50 8272:LMT,7200:EET,10800:EEST,7200:IST,10800:IDT",
    "B17DB82FB0 C4A9C8450 b2DC0 c11A0 b10BC0 c38A0 b5040 c3900 b5040 c3E40 b4AA0 c3E40 b4AA0",
    "c5A118 b35FC c4F84 b395C c4F88 b3904 c503C b3904 c4FDC b3904 c4FDC b3904 c4FDC b3904 c503C",
    "b3904 c4FDC b3904 c4FDC b3964 c4F7C dD18 e3CAE4 d24BC e46E4 d31DC e2A2A4 dFC0 e1F2C0 d2A00",
    "e56A0 d347C e6124 d29FC e5284 d389C e4EC4 d371C e5944 d2F3C e4C24 d39BC e4EC4 d3C5C e4EC4",
    "d3C5C e4E04 d3A7C e4E04 d37DC e50A4 d3A7C b2D04 c23A0 b3F00 c4980 b3F00 c4980 b3F00 c4EC0",
    "b443C c46E4 b443C c4444 b443C c4444 b443C c4444 b443C c4444 b3F00 c4980 b4084 c431C b413C",
    "c47A4 b3DE4 c49DC b39BC c4EC4 b3C60 C10CF23C BB48F34 C1333BCC BA0C8B4 c5AC4 b41A0 c46E0",
    "b443C c4444 b4EBC c3A24 b4E60 c3A24 b515C c3724 b515C c3724 b515C c3960 b4F1C c39C4 b4EC0",
    "c39C0 b5100 c37E0 b5104 c4444 b443C c41A4 b46DC c3F04 b497C c39C4 b4EBC c39C4 b515C c3724",
    "b515C c3724 b515C c39C4 b4EBC c39C4 b4EBC c39C4 b515C c3724 b515C c3724 b515C c3724 b515C",
    "c39C4 b4C1C c3C64 b497C c3F04 b443C c4444 b419C c46E4 b3C5C c1264 b29C c39C4 b371C cFC4 b7DC",
    "c39C4 b347C cFC4 bA7C c39C4 b2F3C c1264 bD1C c39C4 b2C9C cFC4 b14FC c3724 b29FC cFC4 b179C",
    "c3724 b24BC c1264 b1A3C c39C4 b1F7C cFC4 b1F7C c39C4 b1A3C c1264 b221C c39C4 b179C cFC4",
    "b29FC c3724 b14FC cFC4 b2C9C c3724 bFBC c1264 b2F3C c39C4 bA7C cFC4 b347C c39C4 b53C c1264",
    "b371C c39C4 b29C c1264 b39BC c4984 b419C c4444 b443C c3F04 b497C c3C64 b4C1C c39C4 b4EBC",
    "c39C4 b515C c3724 b515C c3724 b515C c3724 b515C c39C4 b4EBC c39C4 b4EBC c39C4 b515C c3724",
    "b515C c3724 b4EBC c3C64 b497C c3F04 b46DC c41A4 b419C c46E4 b3EFC cFC4 b29C c3724 b3C5C cFC4",
    "b53C c3724 b371C c1264 b7DC c39C4 b31DC cFC4 bD1C c39C4 b2C9C c1264 bFBC c39C4 b29FC c1264",
    "b14FC c3724 b275C cFC4 b1A3C c3724 b221C c1264 b1CDC c39C4 b1CDC cFC4 b221C c39C4 b1A3C cFC4",
    "b24BC c39C4 b14FC c1264 b275C c39C4 b125C cFC4 b2F3C c3724 bD1C c1264 b31DC c3724 bA7C c1264",
    "b347C c39C4 b53C cFC4"],
   ["Asia/Hebron EET-2EEST,M3.4.4/50,M10.4.4/50 8423:LMT,7200:EET,10800:EEST,7200:IST,10800:IDT",
    "B17DB82F19 C4A9C84E7 b2DC0 c11A0 b10BC0 c38A0 b5040 c3900 b5040 c3E40 b4AA0 c3E40 b4AA0",
    "c5A118 b35FC c4F84 b395C c4F88 b3904 c503C b3904 c4FDC b3904 c4FDC b3904 c4FDC b3904 c503C",
    "b3904 c4FDC b3904 c4FDC b3964 c4F7C dD18 e3CAE4 d24BC e46E4 d31DC e2A2A4 dFC0 e1F2C0 d2A00",
    "e56A0 d347C e6124 d29FC e5284 d389C e4EC4 d371C e5944 d2F3C e4C24 d39BC e4EC4 d3C5C e4EC4",
    "d3C5C e4E04 d3A7C e4E04 d37DC e50A4 d3A7C b2D04 c23A0 b3F00 c4980 b3F00 c4980 b3F00 c4EC0",
    "b443C c46E4 b443C c4444 b443C c4444 b443C c4444 b443C c4444 b3F00 c4980 b4084 c431C b413C",
    "c47A4 b3DE4 c49DC b3ADC c4DA4 b3C60 c4C20 b33BC C1333BCC BA0C8B4 cAE4 bB9C c4444 b41A0 c46E0",
    "b443C c4444 b4EBC c3A24 b4E60 c3A24 b515C c3724 b515C c3724 b515C c3960 b4F1C c39C4 b4EC0",
    "c39C0 b5100 c37E0 b5104 c4444 b443C c41A4 b46DC c3F04 b497C c39C4 b4EBC c39C4 b515C c3724",
    "b515C c3724 b515C c39C4 b4EBC c39C4 b4EBC c39C4 b515C c3724 b515C c3724 b515C c3724 b515C",
    "c39C4 b4C1C c3C64 b497C c3F04 b443C c4444 b419C c46E4 b3C5C c1264 b29C c39C4 b371C cFC4 b7DC",
    "c39C4 b347C cFC4 bA7C c39C4 b2F3C c1264 bD1C c39C4 b2C9C cFC4 b14FC c3724 b29FC cFC4 b179C",
    "c3724 b24BC c1264 b1A3C c39C4 b1F7C cFC4 b1F7C c39C4 b1A3C c1264 b221C c39C4 b179C cFC4",
    "b29FC c3724 b14FC cFC4 b2C9C c3724 bFBC c1264 b2F3C c39C4 bA7C cFC4 b347C c39C4 b53C c1264",
    "b371C c39C4 b29C c1264 b39BC c4984 b419C c4444 b443C c3F04 b497C c3C64 b4C1C c39C4 b4EBC",
    "c39C4 b515C c3724 b515C c3724 b515C c3724 b515C c39C4 b4EBC c39C4 b4EBC c39C4 b515C c3724",
    "b515C c3724 b4EBC c3C64 b497C c3F04 b46DC c41A4 b419C c46E4 b3EFC cFC4 b29C c3724 b3C5C cFC4",
    "b53C c3724 b371C c1264 b7DC c39C4 b31DC cFC4 bD1C c39C4 b2C9C c1264 bFBC c39C4 b29FC c1264",
    "b14FC c3724 b275C cFC4 b1A3C c3724 b221C c1264 b1CDC c39C4 b1CDC cFC4 b221C c39C4 b1A3C cFC4",
    "b24BC c39C4 b14FC c1264 b275C c39C4 b125C cFC4 b2F3C c3724 bD1C c1264 b31DC c3724 bA7C c1264",
    "b347C c39C4 b53C cFC4"],
   ["Asia/Ho_Chi_Minh <+07>-7 25590:LMT,25590:PLMT,25200:+07,28800:+08,32400:+09 B18887288A",
    "c295E0 D3B92BB76 e12D7C c4020 dD808 c469E0 d268DC c843C0"],
   ["Asia/Hong_Kong HKT-8 27402:LMT,28800:HKT,32400:HKST,30600:HKWT,32400:JST b6EC2A4 c139868",
    "d2880 e1FD2 b21606 c39BC b540E c31E0 b56A0 c39C0 b4440 c39C0 b4EC0 c39C0 b4EC0 c39C0 b4EC0",
    "c3C60 b4EC0 c39C0 b4EBC c3484 b53FC c3484 b569C c31E4 b569C c3484 b53FC c3484 b53FC c3484",
    "b53FC c3484 b569C c31E4 b569C c31E4 b569C c3484 b53FC c3484 b53FC c3F04 b443C c4444 b443C",
    "c4444 b46DC c4444 b443C c4444 b443C c4444 b443C c4444 b443C c4444 b46DC c4444 b443C c1A44",
    "b6E3C c4444 b443C c4444 b443C c15FC4 b3C5C"],
   ["Asia/Hovd <+07>-7 21996:LMT,21600:+06,25200:+07,28800:+08 B186CEE194 C8837EE0C d2CE7C c449C",
    "d44A4 c443C d4444 c443C d4444 c443C d4444 c443C d4444 c443C d4444 c443C d4444 c46DC d4444",
    "c443C d4444 c443C d4444 c443C d4444 c443C d4444 c443C d46E4 c443C d4444 c443C d4444 c443C",
    "d1620C c39BC d4444 c443C d4444 c443C d4444 c443C d4444 c443C d4444 c46DC d48AE4 c4434 d444C",
    "c4434"],
   ["Asia/Irkutsk <+08>-8 25025:LMT,25025:IMT,25200:+07,28800:+08,32400:+09 B156B1673F c156F60",
    "D1391C351 e1B2B1C d449C e4444 d449C e4444 d449C e44A4 d4448 e4440 d4440 e4440 d4440 e4440",
    "d4440 e4440 d4440 e4440 d4440 e4440 d46E0 c8884 d2A00 e1A3C d4440 e4440 d4440 e4440 d4440",
    "e4440 d4440 e46E0 d4EC0 e39C0 d4EC0 e39C0 d4EC0 e39C0 d5160 e3720 d5160 e3720 d5160 e39C0",
    "d4EC0 e39C0 d4EC0 e39C0 d5160 e3720 d5160 e3720 d5160 e3720 d5160 e39C0 d4EC0 e39C0 d4EC0",
    "e39C0 d5160 e3720 d1EADC"],
   ["Asia/Istanbul <+03>-3 6952:LMT,7016:IMT,7200:EET,10800:EEST,10800:+03,14400:+04 B156B1ADD8",
    "C39D52CC0 DA8021C8 c395C d1DDC4 c4F1C d3C04 c449C d4144 c497C dDAA4 c34DC d4F84 c395C d7E424",
    "c245C d1504 c6E3C d4804 c1E23C d5884 c2DBC d4B64 c3EFC d4984 c3EFC d46E4 c419C d4984 c419C",
    "d4984 c3EFC d5C344 cB0FC d4A44 c341C d4A3A8 c39C0 d3724 c515C d3424 c545C d3484 c53FC d39C4",
    "c497C d3F04 e20F4 f2B8C8 e179C c9484 d3FC0 c3C60 d44A0 c4440 d4440 c4440 d4440 c4440 d4440",
    "c4440 d4440 c46E0 d4440 c4440 d4440 c4440 d4440 c4440 d41A0 c46E0 d4440 c4440 d46E0 c4EC0",
    "d39C0 c4EC0 d39C0 c4EC0 d39C0 c5160 d3720 c5160 d3720 c5160 d39C0 c4EC0 d39C0 c4EC0 d39C0",
    "c5160 d3720 c5160 d3720 c5160 d3728 c5160 d39C0 c4EC0 d39C0 c4EC0 d39C0 c5160 d3780 c5100",
    "d3720 c5160 d39C0 c4EC0 d3A20 c4E60 d39C0 c5400 d3480 e3D70"],
   ["Asia/Jakarta WIB-7 25632:LMT,25632:BMT,26400:+0720,27000:+0730,32400:+09,28800:+08,25200:WIB",
    "B13F612E60 C6A123C80 d4BA20 E11A8A528 d1DFFA f164A6 d111BE g75062"],
   ["Asia/Jayapura WIT-9 33768:LMT,32400:+09,34200:+0930,32400:WIT B1BA11A698 C1641F858 dA57DE"],
   ["Asia/Jerusalem,Asia/Tel_Aviv IST-2IDT,M3.4.4/26,M10.5.0",
    "8454:LMT,8440:JMT,7200:IST,10800:IDT,14400:IDDT B156B1A7FA C4779828E D2A298978 c2DC0 d11A0",
    "c10BC0 d38A0 c5040 d3900 c5040 d3E40 c4AA0 d3E40 c4AA0 eD560 d25E0 c16E0 d43E0 c4500 d3E40",
    "c3900 d4A40 c5400 d3C60 c4440 d41A0 c39C0 d6660 c2220 d6660 c2220 d63C0 c2CA0 d4EC0 c3720",
    "d8FB78 c24BC d46E4 c31DC d2A2A4 cFC0 d1F2C0 c2A00 d56A0 c347C d6124 c29FC d5284 c389C d4EC4",
    "c371C d5944 c2F3C d4C24 c39BC d4EC4 c3C5C d4EC4 c3C5C d4E04 c3A7C d4E04 c37DC d50A4 c3A7C",
    "d48C4 c455C d45C4 c425C d4624 c3FBC d4E0C c39BC d5404 c4198 d4564 c3EFC d45C4 c47FC d4084",
    "c46DC d4624 c3EFC d47A8 c479C d40E4 c44FC d4384 c3FBC d48C4 c479C d40E4 c44FC d4384 c3FBC",
    "d4B64 c44FC d4384 c425C d4624"],
   ["Asia/Kabul <+0430>-4:30 16608:LMT,14400:+04,16200:+0430 B169817FA0 C67733CA0"],
   ["Asia/Kamchatka <+12>-12 38076:LMT,39600:+11,43200:+12,46800:+13 B1A74D7BC4 CE51040C d1B2B1C",
    "c449C d4444 c449C d4444 c449C d44A4 c4448 d4440 c4440 d4440 c4440 d4440 c4440 d4440 c4440",
    "d4440 c4440 d4440 c46E0 b8884 c2A00 d1A3C c4440 d4440 c4440 d4440 c4440 d4440 c4440 d46E0",
    "c4EC0 d39C0 c4EC0 d39C0 c4EC0 d39C0 c5160 d3720 c5160 d3720 c5160 d39C0 c4EC0 d39C0 c4EC0",
    "d39C0 c5160 d3720 c5160 d3720 c5160 d3720 c5160 d39C0 c4EC0 d39C0 c4EC0 b8B24 c3720"],
   ["Asia/Karachi PKT-5 16092:LMT,19800:+0530,23400:+0630,18000:+05,18000:PKT,21600:PKST",
    "B18979E1A4 C43163604 b1AB7C d33004 eA6CE2 f109AA0 e443C f30664 e395C f3DE4 e4AFC"],
   ["Asia/Kashgar,Asia/Urumqi <+06>-6 21020:LMT,21600:+06 B1B0F99F64"],
   ["Asia/Kathmandu <+0545>-5:45 20476:LMT,19800:+0530,20700:+0545 B1A1ED6284 C7C25B324"],
   ["Asia/Khandyga <+09>-9 32533:LMT,28800:+08,32400:+09,36000:+10,39600:+11 B1A1D6C9EB C13C7E015",
    "d1B2B1C c449C d4444 c449C d4444 c449C d44A4 c4448 d4440 c4440 d4440 c4440 d4440 c4440 d4440",
    "c4440 d4440 c4440 d4440 c46E0 b8884 c2A00 d1A3C c4440 d4440 c4440 d4440 c4440 d4440 c4440",
    "d46E0 c4EC0 d39C0 c4EC0 d39C0 c4EC0 d39C0 c5160 d3720 c5160 d3720 c5160 d39C0 c4EC0 d39C0",
    "c4EC0 d1918 e20A4 d5160 e3720 d5160 e3720 d5160 e3720 d5160 e39C0 d4EC0 e39C0 d4EC0 e39C0",
    "d5160 e3720 d3FB4 c1AB2C"],
   ["Asia/Kolkata IST-5:30 21208:LMT,21200:HMT,19270:MMT,19800:IST,23400:+0630 B126B4FD28",
    "C1D2DD308 D43B5D18A E433DCF6E d54BC e28E4 d1AB7C"],
   ["Asia/Krasnoyarsk <+07>-7 22286:LMT,21600:+06,25200:+07,28800:+08 B1A1F3F2F2 C13AAD32E",
    "d1B2B1C c449C d4444 c449C d4444 c449C d44A4 c4448 d4440 c4440 d4440 c4440 d4440 c4440 d4440",
    "c4440 d4440 c4440 d4440 c46E0 b8884 c2A00 d1A3C c4440 d4440 c4440 d4440 c4440 d4440 c4440",
    "d46E0 c4EC0 d39C0 c4EC0 d39C0 c4EC0 d39C0 c5160 d3720 c5160 d3720 c5160 d39C0 c4EC0 d39C0",
    "c4EC0 d39C0 c5160 d3720 c5160 d3720 c5160 d3720 c5160 d39C0 c4EC0 d39C0 c4EC0 d39C0 c5160",
    "d3720 c1EADC"],
   ["Asia/Kuala_Lumpur <+08>-8",
    "24406:LMT,24925:SMT,25200:+07,26400:+0720,27000:+0730,32400:+09,28800:+08 B17E313AAA",
    "C84D2FF9 D33E3C8ED E104C96D0 FDD79A8 e1E8FA g136C84"],
   ["Asia/Kuching <+08>-8 26480:LMT,27000:+0730,28800:+08,30000:+0820,32400:+09 B1AD84EB90",
    "CCDD40F8 d171BE C77F3D0 D16A9130 C77F3D0 D1693FB0 C77F3D0 D1693FB0 C77F3D0 D1693FB0 C77F3D0",
    "D16A9130 C77F3D0 D1693FB0 C77F3D0 E5464B0 c1E8FC"],
   ["Asia/Kuwait <+03>-3 11516:LMT,10800:+03 B1DA5C1A84"],
   ["Asia/Macau CST-8 27250:LMT,28800:CST,32400:+09,36000:+10,32400:CDT B18564408E C45DE1A62",
    "d30BC c4B5C d3D84 c395C b11228 e4F80 b3960 e4B60 b5460 e39C0 b4440 e3960 b4EC0 e39C0 b4EC0",
    "e39C0 b4F20 e3C00 b4EC0 e39C0 b4EC0 e3480 b5400 e3480 b56A0 e31E0 b56AE e3484 b53FC e3484",
    "b53FC e3484 b53FC e3484 b569C e31E4 b569C e31E4 b569C e3484 b53FC e3484 b53FC e3F04 b4438",
    "e4448 b4438 e4448 b46DC e4444 b443C e4444 b443C e4444 b443C e4444 b443C e4444 b46DC e4444",
    "b443C e1A44 b6E3C e4444 b443C e4444 b443C e15FC4 b3C5C"],
   ["Asia/Magadan <+11>-11 36192:LMT,36000:+10,39600:+11,43200:+12 B1AA141BA0 CB8A7240 d1B2B1C",
    "c449C d4444 c449C d4444 c449C d44A4 c4448 d4440 c4440 d4440 c4440 d4440 c4440 d4440 c4440",
    "d4440 c4440 d4440 c46E0 b8884 c2A00 d1A3C c4440 d4440 c4440 d4440 c4440 d4440 c4440 d46E0",
    "c4EC0 d39C0 c4EC0 d39C0 c4EC0 d39C0 c5160 d3720 c5160 d3720 c5160 d39C0 c4EC0 d39C0 c4EC0",
    "d39C0 c5160 d3720 c5160 d3720 c5160 d3720 c5160 d39C0 c4EC0 d39C0 c4EC0 d39C0 c5160 d3720",
    "b1EADC cCCC8"],
   ["Asia/Makassar WITA-8 28656:LMT,28656:MMT,28800:+08,32400:+09,28800:WITA B1A1ED4290 c6DE00",
    "D117147F0 e1EFBC"],
   ["Asia/Manila PST-8 -57368:LMT,29032:LMT,28800:PST,32400:PDT,32400:JST B114DCC118 C66D99E28",
    "d13E090 c1C7C d2A124 e15BC d1A280 c6600 d47944 c143C dC3484 c42BC d6C604 c19DC"],
   ["Asia/Muscat <+04>-4 14064:LMT,14400:+04 B1A1ED7B90"],
   ["Asia/Nicosia EET-2EEST,M3.5.0/3,M10.5.0/4 8008:LMT,7200:EET,10800:EEST B1A57203B8 C64769128",
    "b443C c5104 b37DC c4144 b419C c46E4 b449C c43E4 b443C c46E4 b419C c4444 b443C c4444 b443C",
    "c4444 b443C c4444 b46DC c4444 b443C c4444 b443C c4444 b443C c4444 b443C c4444 b443C c4444",
    "b46DC c4444 b443C c4444 b443C c4444 b443C c4444 b443C c4444 b443C c46E4 b443C c4444 b443C",
    "c4444 b4ECC"],
   ["Asia/Novokuznetsk <+07>-7 20928:LMT,21600:+06,25200:+07,28800:+08 B1AA1305C0 CB8BC060",
    "d1B2B1C c449C d4444 c449C d4444 c449C d44A4 c4448 d4440 c4440 d4440 c4440 d4440 c4440 d4440",
    "c4440 d4440 c4440 d4440 c46E0 b8884 c2A00 d1A3C c4440 d4440 c4440 d4440 c4440 d4440 c4440",
    "d46E0 c4EC0 d39C0 c4EC0 d39C0 c4EC0 d39C0 c5160 d3720 c5160 d3720 c5160 d39C0 c4EC0 d39C0",
    "c4EC0 d39C0 c5160 d3720 c5160 d3720 c5160 d3720 c5160 d39C0 c4EC0 d39C0 c4EC0 b8B24 c3720"],
   ["Asia/Novosibirsk <+07>-7 19900:LMT,21600:+06,25200:+07,28800:+08 B1A1D5FE24 C13C8C7FC",
    "d1B2B1C c449C d4444 c449C d4444 c449C d44A4 c4448 d4440 c4440 d4440 c4440 d4440 c4440 d4440",
    "c4440 d4440 c4440 d4440 c46E0 b8884 c2A00 d1A3C c4440 d4440 c14F4 b2F50 c4440 b4440 c4440",
    "b4440 c46E0 b4EC0 c39C0 b4EC0 c39C0 b4EC0 c39C0 b5160 c3720 b5160 c3720 b5160 c39C0 b4EC0",
    "c39C0 b4EC0 c39C0 b5160 c3720 b5160 c3720 b5160 c3720 b5160 c39C0 b4EC0 c39C0 b4EC0 c39C0",
    "b5160 c3720 b1EADC cEEE4"],
   ["Asia/Omsk <+06>-6 17610:LMT,18000:+05,21600:+06,25200:+07 B1A1AE25B6 C13F0AE7A d1B2B1C c449C",
    "d4444 c449C d4444 c449C d44A4 c4448 d4440 c4440 d4440 c4440 d4440 c4440 d4440 c4440 d4440",
    "c4440 d4440 c46E0 b8884 c2A00 d1A3C c4440 d4440 c4440 d4440 c4440 d4440 c4440 d46E0 c4EC0",
    "d39C0 c4EC0 d39C0 c4EC0 d39C0 c5160 d3720 c5160 d3720 c5160 d39C0 c4EC0 d39C0 c4EC0 d39C0",
    "c5160 d3720 c5160 d3720 c5160 d3720 c5160 d39C0 c4EC0 d39C0 c4EC0 d39C0 c5160 d3720 c1EADC"],
   ["Asia/Oral <+05>-5 12324:LMT,10800:+03,18000:+05,21600:+06,14400:+04 B1AA1478DC CB8A7774",
    "d1B2B18 cCD7C d4444 c449C d44A4 c4448 d4440 c4440 d4440 c4440 d4440 c4440 d4440 c4440 e8884",
    "c4440 e46E0 c4440 e4440 c2A00 e5E80 c4440 e4440 c4440 e4440 c4440 e4440 c46E0 e4EC0 c39C0",
    "e4EC0 c39C0 e4EC0 c39C0 e5160 c3720 e5160 c3720 e5160 c39C0 e4EC0 c39C0 e4EC0 c39C0"],
   ["Asia/Phnom_Penh <+07>-7 25180:LMT,25590:PLMT,25200:+07,28800:+08,32400:+09 B188872A24",
    "C916E5E6 D3B92BB76 e12D7C c4020"],
   ["Asia/Pontianak WIB-7",
    "26240:LMT,26240:PMT,27000:+0730,32400:+09,28800:+08,28800:WITA,25200:WIB B18BFA7300 cD1C40",
    "D1162C508 c1F3DA e164A6 c111BE f75062 gCD73E"],
   ["Asia/Pyongyang KST-9 30180:LMT,30600:KST,32400:JST,32400:KST B18BD2D69C C70E255C d12005E",
    "b257040 d174C0"],
   ["Asia/Qatar <+03>-3 12368:LMT,14400:+04,10800:+03 B1A1ED8230 C6297F590"],
   ["Asia/Qostanay <+05>-5 15268:LMT,14400:+04,18000:+05,21600:+06 B1AA146D5C CB8A74E4 d1B2B1C",
    "cCD7C d4444 c449C d44A4 c4448 d4440 c4440 d4440 c4440 d4440 c4440 d4440 c4440 d4440 c4440",
    "d4440 c46E0 b8884 c2A00 d1A3C c4440 d4440 c4440 d4440 c4440 d4440 c4440 d46E0 c4EC0 d39C0",
    "c4EC0 d39C0 c4EC0 d39C0 c5160 d3720 c5160 d3720 c5160 d39C0 c4EC0 d39C0 c4EC0 d39C0 cAA934"],
   ["Asia/Qyzylorda <+05>-5 15712:LMT,14400:+04,18000:+05,21600:+06 B1AA146BA0 CB8A76A0 d1B2B1C",
    "cCD7C d4444 c449C d44A4 c4448 d4440 c4440 d4440 c4440 d4440 c4440 d4440 c4440 d4440 c4440",
    "d4440 c46E0 dB280 c5E80 d4440 c4440 d4440 c4440 d4440 c4440 d46E0 c4EC0 d39C0 c4EC0 d39C0",
    "c4EC0 d39C0 c5160 d3720 c5160 d3720 c5160 d39C0 c4EC0 d39C0 c4EC0 d39C0 c7E1D4"],
   ["Asia/Riyadh <+03>-3 11212:LMT,10800:+03 B1D5161BB4"],
   ["Asia/Sakhalin <+11>-11 34248:LMT,32400:+09,39600:+11,43200:+12,36000:+10 B186EBB2B8",
    "C4B3FE538 d130C18 c449C d4444 c449C d4444 c449C d44A4 c4448 d4440 c4440 d4440 c4440 d4440",
    "c4440 d4440 c4440 d4440 c4440 d4440 c46E0 e8884 c2A00 d1A3C c4440 d4440 c4440 d4440 c4440",
    "d4440 c4440 d46E0 c4EC0 e8884 c39C0 e4EC0 c39C0 e5160 c3720 e5160 c3720 e5160 c39C0 e4EC0",
    "c39C0 e4EC0 c39C0 e5160 c3720 e5160 c3720 e5160 c3720 e5160 c39C0 e4EC0 c39C0 e4EC0 c39C0",
    "e5160 c3720 e1EADC cC244"],
   ["Asia/Samarkand <+05>-5 16073:LMT,14400:+04,18000:+05,21600:+06 B1AA146A37 CB8A7809 d1B2B1C",
    "cCD7C d4444 c449C d44A4 c4448 d4440 c4440 d4440 c4440 d4440 c4440 d4440 c4440 d4440 c4440",
    "d4440 c46E0 d4440 c4440"],
   ["Asia/Seoul KST-9 30472:LMT,30600:KST,32400:JST,32400:KST,36000:KDT,34200:KDT B18BD2D578",
    "C70E2680 d1205FE e175E0 d26FC e4BC4 d3C5C e4BC4 d3CBC e5944 d2F3C b15A84 f99C2 b2F9C f5F44",
    "b31DC f5164 b347C f5404 b347C f5404 b347C f5404 b347C d7A44 eDC686 d39C0 e4EC0 d39C0"],
   ["Asia/Singapore <+08>-8",
    "24925:LMT,24925:SMT,25200:+07,26400:+0720,27000:+0730,32400:+09,28800:+08 B17E3138A3 c25C80",
    "D33E3C8ED E104C96D0 FDD79A8 e1E8FA g136C84"],
   ["Asia/Srednekolymsk <+11>-11 36892:LMT,36000:+10,39600:+11,43200:+12 B1AA1418E4 CB8A74FC",
    "d1B2B1C c449C d4444 c449C d4444 c449C d44A4 c4448 d4440 c4440 d4440 c4440 d4440 c4440 d4440",
    "c4440 d4440 c4440 d4440 c46E0 b8884 c2A00 d1A3C c4440 d4440 c4440 d4440 c4440 d4440 c4440",
    "d46E0 c4EC0 d39C0 c4EC0 d39C0 c4EC0 d39C0 c5160 d3720 c5160 d3720 c5160 d39C0 c4EC0 d39C0",
    "c4EC0 d39C0 c5160 d3720 c5160 d3720 c5160 d3720 c5160 d39C0 c4EC0 d39C0 c4EC0 d39C0 c5160",
    "d3720 c1EADC"],
   ["Asia/Taipei CST-8 29160:LMT,28800:CST,32400:JST,32400:CDT B174C9D518 C4E865968 b44400 d5880",
    "b341C d4984 b4AFC d4444 b395C d4F84 b395C d4F84 b395C d4F84 b395C d3904 b5BDC d38A4 b503C",
    "d38A4 b503C d38A4 b449C d44A4 b449C d4444 b449C d4444 b449C d4444 b449C d5B84 b2DBC d5B24",
    "b2DBC d6AFE4 b449C d4444 b449C d20164 b227C"],
   ["Asia/Tashkent <+05>-5 16631:LMT,18000:+05,21600:+06,25200:+07 B1AA146809 CB8A6C27 d1B2B1C",
    "c449C d4444 c449C d4444 c449C d44A4 c4448 d4440 c4440 d4440 c4440 d4440 c4440 d4440 c4440",
    "d4440 c4440 d4440 c46E0 b8884"],
   ["Asia/Tbilisi <+04>-4 10751:LMT,10751:TBMT,10800:+03,14400:+04,18000:+05 B156B19F01 c17B800",
    "D3DC0724F eCE2DC d449C e4444 d449C e4444 d449C e44A4 d4448 e4440 d4440 e4440 d4440 e4440",
    "d4440 e4440 d4440 e4440 d4440 e4440 d46E0 c8884 d4438 c443C d4444 c443C d4444 e887C d443C",
    "e46E4 dD73C e39C4 d4EBC e39C4 d515C e3724 d515C e3724 d515C e39C4 d4EBC e39C4 d4EBC e39C4",
    "d221C c2F50 d3720"],
   ["Asia/Tehran <+0330>-3:30 12344:LMT,12344:TMT,12600:+0330,16200:+0430,14400:+04,18000:+05",
    "B19A6762C8 cA67A0 D4E9377F0 e4FE0 f3A22 e31E0 c24C0 d49E2 c2B1C d4504 c45BC d5ACC4 c353C",
    "d4444 c44FC d43E4 c44FC d43E4 c44FC d43E4 c44FC d43E4 c44FC d4444 c44FC d43E4 c44FC d43E4",
    "c44FC d43E4 c44FC d4444 c44FC d43E4 c44FC d43E4 c44FC d43E4 c44FC d4444 c44FC d155A4 c44FC",
    "d4444 c44FC d43E4 c44FC d43E4 c44FC d43E4 c44FC d4444 c44FC d43E4 c44FC d43E4 c44FC d43E4",
    "c44FC d4444 c44FC d43E4 c44FC d43E4 c44FC d43E4 c44FC d4444 c44FC d43E4 c44FC"],
   ["Asia/Thimphu <+06>-6 21516:LMT,19800:+0530,21600:+06 B1D5E0FA74 C4B7B3834"],
   ["Asia/Tokyo JST-9 33539:LMT,32400:JST,36000:JDT b65C1DC c204780 b31E0 c4C20 b3C60 c5940 b2F40",
    "c5940 b2F40"],
   ["Asia/Tomsk <+07>-7 20391:LMT,21600:+06,25200:+07,28800:+08 B1A1E033D9 C13BE9247 d1B2B1C",
    "c449C d4444 c449C d4444 c449C d44A4 c4448 d4440 c4440 d4440 c4440 d4440 c4440 d4440 c4440",
    "d4440 c4440 d4440 c46E0 b8884 c2A00 d1A3C c4440 d4440 c4440 d4440 c4440 d4440 c4440 d46E0",
    "c4EC0 d39C0 c4EC0 d39C0 c4EC0 d39C0 c5160 d3720 c5160 d3720 c5160 d39C0 cBA0 b4324 c39C0",
    "b4EC0 c39C0 b5160 c3720 b5160 c3720 b5160 c3720 b5160 c39C0 b4EC0 c39C0 b4EC0 c39C0 b5160",
    "c3720 b1EADC cD9E4"],
   ["Asia/Ust-Nera <+10>-10 34374:LMT,28800:+08,32400:+09,43200:+12,39600:+11,36000:+10",
    "B1A1D6C2BA C13C7E746 d1B2B1C e4494 d4444 e449C d4444 e449C d44A4 e4448 d4440 e4440 d4440",
    "e4440 d4440 e4440 d4440 e4440 d4440 e4440 d4440 e46E0 f8884 e2A00 d1A3C e4440 d4440 e4440",
    "d4440 e4440 d4440 e4440 d46E0 e4EC0 d39C0 e4EC0 d39C0 e4EC0 d39C0 e5160 d3720 e5160 d3720",
    "e5160 d39C0 e4EC0 d39C0 e4EC0 d39C0 e5160 d3720 e5160 d3720 e5160 d3720 e5160 d39C0 e4EC0",
    "d39C0 e4EC0 d39C0 e5160 d3720 e3FB4 f1AB2C"],
   ["Asia/Vientiane <+07>-7 24624:LMT,25590:PLMT,25200:+07,28800:+08,32400:+09 B188872C50",
    "C916E3BA D3B92BB76 e12D7C c4020 dD808 c44CFC"],
   ["Asia/Vladivostok <+10>-10 31651:LMT,32400:+09,36000:+10,39600:+11 B1A7542C5D CE4A6F93",
    "d1B2B1C c449C d4444 c449C d4444 c449C d44A4 c4448 d4440 c4440 d4440 c4440 d4440 c4440 d4440",
    "c4440 d4440 c4440 d4440 c46E0 b8884 c2A00 d1A3C c4440 d4440 c4440 d4440 c4440 d4440 c4440",
    "d46E0 c4EC0 d39C0 c4EC0 d39C0 c4EC0 d39C0 c5160 d3720 c5160 d3720 c5160 d39C0 c4EC0 d39C0",
    "c4EC0 d39C0 c5160 d3720 c5160 d3720 c5160 d3720 c5160 d39C0 c4EC0 d39C0 c4EC0 d39C0 c5160",
    "d3720 c1EADC"],
   ["Asia/Yakutsk <+09>-9 31138:LMT,28800:+08,32400:+09,36000:+10 B1A1D6CF5E C13C7DAA2 d1B2B1C",
    "c449C d4444 c449C d4444 c449C d44A4 c4448 d4440 c4440 d4440 c4440 d4440 c4440 d4440 c4440",
    "d4440 c4440 d4440 c46E0 b8884 c2A00 d1A3C c4440 d4440 c4440 d4440 c4440 d4440 c4440 d46E0",
    "c4EC0 d39C0 c4EC0 d39C0 c4EC0 d39C0 c5160 d3720 c5160 d3720 c5160 d39C0 c4EC0 d39C0 c4EC0",
    "d39C0 c5160 d3720 c5160 d3720 c5160 d3720 c5160 d39C0 c4EC0 d39C0 c4EC0 d39C0 c5160 d3720",
    "c1EADC"],
   ["Asia/Yangon <+0630>-6:30 23087:LMT,23087:RMT,23400:+0630,32400:+09 B156B16ED1 c156660",
    "D2A0088C7 c19BB6"],
   ["Asia/Yekaterinburg <+05>-5 14553:LMT,13505:PMT,14400:+04,18000:+05,21600:+06 B19B59EE27",
    "C5B3A8D8 D14914B41 e1B2B1C d449C e4444 d449C e4444 d449C e44A4 d4448 e4440 d4440 e4440 d4440",
    "e4440 d4440 e4440 d4440 e4440 d4440 e4440 d46E0 c8884 d2A00 e1A3C d4440 e4440 d4440 e4440",
    "d4440 e4440 d4440 e46E0 d4EC0 e39C0 d4EC0 e39C0 d4EC0 e39C0 d5160 e3720 d5160 e3720 d5160",
    "e39C0 d4EC0 e39C0 d4EC0 e39C0 d5160 e3720 d5160 e3720 d5160 e3720 d5160 e39C0 d4EC0 e39C0",
    "d4EC0 e39C0 d5160 e3720 d1EADC"],
   ["Asia/Yerevan <+04>-4 10680:LMT,10800:+03,14400:+04,18000:+05 B1AA147F48 C3DC07208 dCE2DC",
    "c449C d4444 c449C d4444 c449C d44A4 c4448 d4440 c4440 d4440 c4440 d4440 c4440 d4440 c4440",
    "d4440 c4440 d4440 c46E0 b8884 c4440 b4440 c4440 b4440 c4440 b4440 c4440 d1139C c4EC0 d39C0",
    "c4EC0 d39C0 c5160 d3720 c5160 d3720 c5160 d39C0 c4EC0 d39C0 c4EC0 d39C0 c5160 d3720 c5160",
    "d3720 c5160 d3720 c5160 d39C0 c4EC0 d39C0 c4EC0 d39C0 c5160 d3720 c5160"]]

end Inlay.Time.Zones
