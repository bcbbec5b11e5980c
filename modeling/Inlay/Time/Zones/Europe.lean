/-!
# Zones of Europe

Records of time zones, as the zone reader takes them: the names of a zone, its
yearly rule, its local times and its changes.
-/

namespace Inlay.Time.Zones

def europeRecords : List (List String) :=
  [["Europe/Amsterdam CET-1CEST,M3.5.0,M10.5.0/3",
    "1172:LMT,1172:AMT,4772:NST,4800:+0120,1200:+0020,7200:CEST,3600:CET B1020D366C c2B8360 b395C",
    "c49EC b39C0 c4980 b4440 c46E0 b41A0 c46E0 b41A0 c46E0 b41A0 c43E0 b4980 c5880 b3000 c41A0",
    "b46E0 c5B20 b2D60 c53A0 b34E0 c5400 b3480 c54C0 b3660 c5280 b3600 c52E0 b35A0 c5340 b3540",
    "c56A0 b31E0 c5460 b36C0 c5220 b3660 c5280 b3600 c5340 b3540 c5640 dEF4 E7C1714 d5400 e3480",
    "d5460 e36C0 f52D8 G4A298C0 f3720 g46E0 f4440 g4440 f4440 g3EA0 f10E0C0 g41A0 f46E0 g4440",
    "f4440 g4440 f46E0 g41A0 f4440 g4440 f4440 g4440 f4440 g4440 f4440 g46E0 f4440 g4440 f4440",
    "g4440 f4440 g4440 f4440 g4440 f4440 g4440 f4440 g46E0 f4440 g4440 f4440 g4440 f4440 g4440",
    "f4440 g4440 f4440 g4440 f46E0"],
   ["Europe/Andorra CET-1CEST,M3.5.0,M10.5.0/3 364:LMT,0:WET,3600:CET,7200:CEST B17E319894",
    "C560B276C d149944 c4440 d4440 c4440 d4440 c4440 d4440 c4440 d4440 c4440 d4440 c46E0 d4440",
    "c4440 d4440 c4440 d4440 c4440 d4440 c4440 d4440 c4440 d46E0"],
   ["Europe/Astrakhan <+04>-4 11532:LMT,10800:+03,14400:+04,18000:+05 B1AA132A74 CB8BC5DC d1B2B1C",
    "c449C d4444 c449C d4444 c449C d44A4 c4448 d4440 c4440 d4440 c4440 d4440 c4440 d4440 c4440",
    "b8884 c4440 b46E0 c4440 bCCC0 c4440 b4440 c4440 b4440 c4440 b4440 c46E0 b4EC0 c39C0 b4EC0",
    "c39C0 b4EC0 c39C0 b5160 c3720 b5160 c3720 b5160 c39C0 b4EC0 c39C0 b4EC0 c39C0 b5160 c3720",
    "b5160 c3720 b5160 c3720 b5160 c39C0 b4EC0 c39C0 b4EC0 c39C0 b5160 c3720 b1EADC cC244"],
   ["Europe/Athens EET-2EEST,M3.5.0/3,M10.5.0/4",
    "5692:LMT,5692:AMT,7200:EET,10800:EEST,7200:CEST,3600:CET B1743A7D44 C2740893C D1DFCC860",
    "c14FC d49984 e89C fCEB0 e3778 f467C c44A4 d468BC c2E7C dC0184 c5580 d3368 c4440 d41A0 c4200",
    "d4680 c41A4 d46F8 c43C0 d455C c437C d4450 c4440 d4440 c4440 d4440 c4440 d4440 c46E0 d4440",
    "c4440 d4440 c4440 d4440 c4440 d4440 c4440 d4440 c4440 d4440 c46E0 d4440 c4440 d4440 c4440",
    "d4440 c4440 d4440 c4440 d4440 c4440 d46E0"],
   ["Europe/Belfast,Europe/London GMT0BST,M3.5.0/1,M10.5.0 -75:LMT,0:GMT,3600:BST,7200:BDST",
    "B11A57EECB C80C9A3D5 b31E0 c46E0 b3CC0 c4680 b4740 c43E0 b44A0 c43E0 b4F20 c3C00 b44A0 c4140",
    "b4980 c4980 b3720 c4EC0 b3C60 c4EC0 b3F00 c4980 b3F00 c46E0 b41A0 c4C20 b3F00 c4980 b3F00",
    "c46E0 b41A0 c4980 b3F00 c4980 b3F00 c46E0 b4440 c4980 b3F00 c46E0 b41A0 c4980 b3F00 c4980",
    "b3F00 c46E0 b41A0 c4980 b5160 c24C0 dA2BC c24C0 d5940 c2F40 d5940 c31E0 d56A0 c3F00 d49E0",
    "c2700 b1F84 c46E0 b41A0 c3C60 dA7C c2CA0 b1F84 c31E0 b56A0 c39C0 b4EC0 c3F00 b46E0 c41A0",
    "b46E0 c4440 b46E0 c41A0 b3F00 c46E0 b41A0 c4980 b3F00 c4C20 b3F00 c46E0 b41A0 c4980 b3F00",
    "c4980 b3F00 c46E0 b41A0 c41A0 b5160 c3720 b5160 c39C0 b4EC0 c3720 b5160 c3720 b5160 c3720",
    "b5160 c3720 b5400 c2A00 b1FAA0 c3480 b5400 c3480 b5400 c3480 b5400 c3480 b5400 c3720 b5160",
    "c3720 b5160 c3720 b5400 c3480 b5400 c3480 b5400 c39BC b4EC0 c39C0 b4EC0 c39C0 b4EC0 c39C0",
    "b5160 c39C0 b4EC0 c39C0 b4EC0 c39C0 b4EC0 c39C0 b4EC0 c39C0 b5160 c3720 b5160 c39C0 b4EC0",
    "c39C0 b4EC0 c39C0 b4EC0 c39C0 b4EC0 c39C0 b4EC0 c3C60"],
   ["Europe/Belgrade,Europe/Podgorica CET-1CEST,M3.5.0,M10.5.0/3 4920:LMT,3600:CET,7200:CEST",
    "B15E37D548 C6BC54598 bD2CC c3720 b46E0 c4440 b4440 c51C0 b3120 c1413C0 b4440 c4440 b46E0",
    "c4440 b4440 c4440 b4440 c4440 b4440 c4440 b4440 c4440 b4440 c4440 b46E0 c4440 b4440 c4440",
    "b4440 c4440 b4440 c4440 b4440 c4440 b4440 c46E0"],
   ["Europe/Berlin CET-1CEST,M3.5.0,M10.5.0/3 3208:LMT,3600:CET,7200:CEST,10800:CEMT B16F9D46F8",
    "C2B69B568 b3964 c49E8 b39C0 c4EC0 b39C0 cB8680 b16260 c3720 b46E0 c4440 b4440 c4440 d137C",
    "c2E20 b14A4 c3720 b4200 c43E4 dD1C c125C b24C4 c4980 b3F00 c46E0 b41A0 c105300 b41A0 c4440",
    "b4440 c4440 b4440 c4440 b4440 c4440 b46E0 c4440 b4440 c4440 b4440 c4440 b4440 c4440 b4440",
    "c4440 b4440 c4440 b46E0 c4440 b4440 c4440 b4440 c4440 b4440 c4440 b4440 c4440 b4440 c46E0"],
   ["Europe/Bratislava,Europe/Prague CET-1CEST,M3.5.0,M10.5.0/3",
    "3464:LMT,3464:PMT,3600:CET,7200:CEST,0:GMT B11E4477F8 c165600 D2E3C2C68 c3964 d49E8 c39C0",
    "d4EC0 c39C0 dB8680 c16260 d3720 c46E0 d4440 c4440 d4440 c4440 d5160 c3960 e1504 c1F80 d14FC",
    "c3F00 d4980 c3F00 d4680 c4200 dFC7E0 c4440 d46E0 c41A0 d4440 c4440 d4440 c4440 d4440 c4440",
    "d4440 c46E0 d4440 c4440 d4440 c4440 d4440 c4440 d4440 c4440 d4440 c4440 d4440 c46E0 d4440",
    "c4440 d4440 c4440 d4440 c4440 d4440 c4440 d4440 c4440 d46E0"],
   ["Europe/Brussels CET-1CEST,M3.5.0,M10.5.0/3",
    "1050:LMT,1050:BMT,0:WET,3600:CET,7200:CEST,3600:WEST B156B1C4E6 C1731E81A dC0C60 eCA7C d3960",
    "e49E8 d39C0 e4EC0 d39C0 c1528 f2970 c5160 f31E0 c5E80 f3540 c5460 f38A0 c4980 f4980 c3F00",
    "f41A0 c46E0 f4440 c4440 f4980 c3F00 f46E0 c41A0 f4980 c41AC f4980 c3F00 f46E0 c41A0 f4980",
    "c3F00 f4440 c4440 f41A0 c4980 f4440 c4440 f41A0 c46E0 f4980 c3F00 f4440 c4440 f41A0 c46E0",
    "f4980 c5160 f24C0 e1FE0 d14FFC e3720 d46E0 e4440 d3EA0 e49E0 d3EA0 e5BE0 d34E0 e105000 d41A0",
    "e46E0 d4440 e4440 d4440 e46E0 d41A0 e4440 d4440 e4440 d4440 e4440 d4440 e4440 d46E0 e4440",
    "d4440 e4440 d4440 e4440 d4440 e4440 d4440 e4440 d4440 e4440 d46E0 e4440 d4440 e4440 d4440",
    "e4440 d4440 e4440 d4440 e4440 d4440 e46E0"],
   ["Europe/Bucharest EET-2EEST,M3.5.0/3,M10.5.0/4 6264:LMT,6264:BMT,7200:EET,10800:EEST",
    "B16CCAC508 c154C80 D18E2158 c3240 d4440 c4440 d46E0 c4440 d4440 c4440 d4440 c4440 d4440",
    "c4440 d4440 c4440 d4440 c4440 d153720 c2F3C d46E0 c41A4 d4448 c4440 d4440 c4440 d4440 c4440",
    "d4440 c46E0 d4440 c4440 d4440 c4440 d4440 c4440 d4440 c4440 d4440 c4440 d4440 c46E0 d4438",
    "c4440 d4440 c4440 d4440 c4440 d4440 c443C d4444 c443C d46E4 c4EBC d39D0"],
   ["Europe/Budapest CET-1CEST,M3.5.0,M10.5.0/3 4580:LMT,3600:CET,7200:CEST B16B12769C C2FF485C4",
    "b3964 c49E8 b39C0 c4EC0 b39C0 c4F20 b3960 c4C20 b3F00 cAFE54 bD6EC c3720 b46E0 c4440 b4440",
    "c4F74 b44A4 c3848 b473C c43E4 b4440 c4440 b4440 c46E0 b41A0 c27B38 b31DC c56AC b31E0 c5BE0",
    "b2CA0 c5BE0 b2CA0 cC0C58 b41A0 c4440 b4440 c4440 b4440 c4440 b4440 c4448 b46E0 c4440 b4440",
    "c4440 b4440 c4440 b4440 c4440 b4440 c4440 b4440 c4440 b46E0 c4440 b4440 c4440 b4440 c4440",
    "b4440 c4440 b4440 c4440 b4440 c46E0"],
   ["Europe/Busingen,Europe/Zurich CET-1CEST,M3.5.0,M10.5.0/3",
    "2048:LMT,1786:BMT,3600:CET,7200:CEST B124EBCF80 C4CE31C06 D5843637A c39C0 d4EC0 c39C0",
    "d1496A4 c4440 d4440 c4440 d4440 c4440 d4440 c46E0 d4440 c4440 d4440 c4440 d4440 c4440 d4440",
    "c4440 d4440 c4440 d4440 c46E0 d4440 c4440 d4440 c4440 d4440 c4440 d4440 c4440 d4440 c4440",
    "d46E0"],
   ["Europe/Chisinau,Europe/Tiraspol EET-2EEST,M3.5.0/3,M10.5.0/4",
    "6920:LMT,6900:CMT,6264:BMT,7200:EET,10800:EEST,7200:CEST,3600:CET,10800:MSK,14400:MSD",
    "B156B1ADF8 C47B4D614 D194532FC E18E2158 d3240 e4440 d4440 e46E0 d4440 e4440 d4440 e4440",
    "d4440 e4440 d4440 e4440 d4440 e4440 d4440 e77A0 f7DFC gB170 f3720 g46E0 f4440 h3594 i13955C",
    "h449C i4444 h449C i4444 h449C i44A4 h4448 i4440 h4440 i4440 h4440 i4440 h4440 i4440 h4440",
    "i4440 h4440 i4440 eFBC d3728 e4440 d4440 e4438 d443C e4444 d443C e4444 d443C e4444 d443C",
    "e46E4 d4EBC e39CC d4EC0 e39C0 d4EC0 e39C0 d5160 e3720 d5160 e3720 d5160 e39C0 d4EC0 e39C0",
    "d4EC0 e39C0 d5160 e3720 d5160 e3720 d5160 e3720 d5160 e39C0 d4EC0 e39C0 d4EC0 e39C0 d5160",
    "e3720 d5160 e3720 d5160 e39C0 d4EC0 e39C0 d4EC0 e39C0 d4EC0 e39C0 d5160 e3720 d5160 e3720",
    "d5160 e39C0 d4EC0 e39C0 d4EC0 e39C0 d5160 e3724"],
   ["Europe/Copenhagen CET-1CEST,M3.5.0,M10.5.0/3 3020:LMT,3020:CMT,3600:CET,7200:CEST B16981B4B4",
    "c223E0 D2A119D2C c341C dCA328 c151E8 d3720 c46E0 d4440 c4440 d4440 c32A0 d6120 c2E20 d5BE0",
    "c24C0 d6660 c2220 d10F080 c41A0 d4440 c4440 d4440 c4440 d4440 c4440 d4440 c46E0 d4440 c4440",
    "d4440 c4440 d4440 c4440 d4440 c4440 d4440 c4440 d4440 c46E0 d4440 c4440 d4440 c4440 d4440",
    "c4440 d4440 c4440 d4440 c4440 d46E0"],
   ["Europe/Dublin GMT0IST,M3.5.0/1,M10.5.0 -1521:LMT,-1521:DMT,2079:IST,0:GMT,3600:BST,3600:IST",
    "B157CBEFF1 c132728 d31E0 EF9258F d3CC0 e4680 d4740 e43E0 d44A0 e43E0 d4F20 e3C00 d44A0 f4140",
    "d4980 f4980 d3720 f4EC0 d3C60 f4EC0 d3F00 f4980 d3F00 f46E0 d41A0 f4C20 d3F00 f4980 d3F00",
    "f46E0 d41A0 f4980 d3F00 f4980 d3F00 f46E0 d4440 f4980 d3F00 f46E0 d41A0 f4980 d3F00 f4980",
    "d3F00 f46E0 d41A0 f4980 d5160 f24C0 d389A0 f3C60 d56A0 f3F00 d4980 f39C0 d4EC0 f3F00 d46E0",
    "f41A0 d46E0 f4440 d46E0 f41A0 d3F00 f46E0 d41A0 f4980 d3F00 f4C20 d3F00 f46E0 d41A0 f4980",
    "d3F00 f4980 d3F00 f46E0 d41A0 f41A0 d5160 f3720 d5160 f39C0 d4EC0 f3720 d5160 f3720 d5160",
    "f3720 d5160 f3720 d5400 f2A00 d1FAA0 f3480 d5400 f3480 d5400 f3480 d5400 f3480 d5400 f3720",
    "d5160 f3720 d5160 f3720 d5400 f3480 d5400 f3480 d5400 f39BC d4EC0 f39C0 d4EC0 f39C0 d4EC0",
    "f39C0 d5160 f39C0 d4EC0 f39C0 d4EC0 f39C0 d4EC0 f39C0 d4EC0 f39C0 d5160 f3720 d5160 f39C0",
    "d4EC0 f39C0 d4EC0 f39C0 d4EC0 f39C0 d4EC0 f39C0 d4EC0 f3C60"],
   ["Europe/Gibraltar CET-1CEST,M3.5.0,M10.5.0/3",
    "-1284:LMT,0:GMT,3600:BST,7200:BDST,3600:CET,7200:CEST B157CBEF04 C4355A39C b31E0 c46E0 b3CC0",
    "c4680 b4740 c43E0 b44A0 c43E0 b4F20 c3C00 b44A0 c4140 b4980 c4980 b3720 c4EC0 b3C60 c4EC0",
    "b3F00 c4980 b3F00 c46E0 b41A0 c4C20 b3F00 c4980 b3F00 c46E0 b41A0 c4980 b3F00 c4980 b3F00",
    "c46E0 b4440 c4980 b3F00 c46E0 b41A0 c4980 b3F00 c4980 b3F00 c46E0 b41A0 c4980 b5160 c24C0",
    "dA2BC c24C0 d5940 c2F40 d5940 c31E0 d56A0 c3F00 d49E0 c2700 b1F84 c46E0 b41A0 c3C60 dA7C",
    "c2CA0 b1F84 c31E0 b56A0 c39C0 b4EC0 c3F00 b46E0 c41A0 b46E0 c4440 b46E0 c41A0 b3F00 c46E0",
    "b41A0 c4980 b3F00 c4C20 b3F00 e46E0 fD59BC e4440 f4440 e4440 f4440 e46E0 f4440 e4440 f4440",
    "e4440 f4440 e4440 f4440 e4440 f4440 e4440 f4440 e46E0 f4440 e4440 f4440 e4440 f4440 e4440",
    "f4440 e4440 f4440 e4440 f46E0"],
   ["Europe/Guernsey GMT0BST,M3.5.0/1,M10.5.0",
    "-609:LMT,0:GMT,3600:BST,7200:CEST,3600:CET,7200:BDST B195A176E1 C5801BBF b31E0 c46E0 b3CC0",
    "c4680 b4740 c43E0 b44A0 c43E0 b4F20 c3C00 b44A0 c4140 b4980 c4980 b3720 c4EC0 b3C60 c4EC0",
    "b3F00 c4980 b3F00 c46E0 b41A0 c4C20 b3F00 c4980 b3F00 c46E0 b41A0 c4980 b3F00 c4980 b3F00",
    "c46E0 b4440 c4980 b3F00 c46E0 b41A0 c4980 b3F00 c4980 b3F00 c46E0 b41A0 c4980 b5160 c24C0",
    "d2FF4 e13FE8 d3720 e46E0 d4440 e4440 d4440 fD74 c198C b1F84 c46E0 b41A0 c3C60 fA7C c2CA0",
    "b1F84 c31E0 b56A0 c39C0 b4EC0 c3F00 b46E0 c41A0 b46E0 c4440 b46E0 c41A0 b3F00 c46E0 b41A0",
    "c4980 b3F00 c4C20 b3F00 c46E0 b41A0 c4980 b3F00 c4980 b3F00 c46E0 b41A0 c41A0 b5160 c3720",
    "b5160 c39C0 b4EC0 c3720 b5160 c3720 b5160 c3720 b5160 c3720 b5400 c2A00 b1FAA0 c3480 b5400",
    "c3480 b5400 c3480 b5400 c3480 b5400 c3720 b5160 c3720 b5160 c3720 b5400 c3480 b5400 c3480",
    "b5400 c39BC b4EC0 c39C0 b4EC0 c39C0 b4EC0 c39C0 b5160 c39C0 b4EC0 c39C0 b4EC0 c39C0 b4EC0",
    "c39C0 b4EC0 c39C0 b5160 c3720 b5160 c39C0 b4EC0 c39C0 b4EC0 c39C0 b4EC0 c39C0 b4EC0 c39C0",
    "b4EC0 c3C60"],
   ["Europe/Helsinki,Europe/Mariehamn EET-2EEST,M3.5.0/3,M10.5.0/4",
    "5989:LMT,5989:HMT,7200:EET,10800:EEST B153B50B9B c16F620 D275AE245 c4500 d149708 c4440 d4440",
    "c4440 d4444 c4440 d4440 c46E0 d4440 c4440 d4440 c4440 d4440 c4440 d4440 c4440 d4440 c4440",
    "d4440 c46E0 d4440 c4440 d4440 c4440 d4440 c4440 d4440 c4440 d4440 c4440 d46E0"],
   ["Europe/Isle_of_Man GMT0BST,M3.5.0/1,M10.5.0 -1075:LMT,0:GMT,3600:BST,7200:BDST B15CCABD33",
    "C3E56D56D b31E0 c46E0 b3CC0 c4680 b4740 c43E0 b44A0 c43E0 b4F20 c3C00 b44A0 c4140 b4980",
    "c4980 b3720 c4EC0 b3C60 c4EC0 b3F00 c4980 b3F00 c46E0 b41A0 c4C20 b3F00 c4980 b3F00 c46E0",
    "b41A0 c4980 b3F00 c4980 b3F00 c46E0 b4440 c4980 b3F00 c46E0 b41A0 c4980 b3F00 c4980 b3F00",
    "c46E0 b41A0 c4980 b5160 c24C0 dA2BC c24C0 d5940 c2F40 d5940 c31E0 d56A0 c3F00 d49E0 c2700",
    "b1F84 c46E0 b41A0 c3C60 dA7C c2CA0 b1F84 c31E0 b56A0 c39C0 b4EC0 c3F00 b46E0 c41A0 b46E0",
    "c4440 b46E0 c41A0 b3F00 c46E0 b41A0 c4980 b3F00 c4C20 b3F00 c46E0 b41A0 c4980 b3F00 c4980",
    "b3F00 c46E0 b41A0 c41A0 b5160 c3720 b5160 c39C0 b4EC0 c3720 b5160 c3720 b5160 c3720 b5160",
    "c3720 b5400 c2A00 b1FAA0 c3480 b5400 c3480 b5400 c3480 b5400 c3480 b5400 c3720 b5160 c3720",
    "b5160 c3720 b5400 c3480 b5400 c3480 b5400 c39BC b4EC0 c39C0 b4EC0 c39C0 b4EC0 c39C0 b5160",
    "c39C0 b4EC0 c39C0 b4EC0 c39C0 b4EC0 c39C0 b4EC0 c39C0 b5160 c3720 b5160 c39C0 b4EC0 c39C0",
    "b4EC0 c39C0 b4EC0 c39C0 b4EC0 c39C0 b4EC0 c3C60"],
   ["Europe/Istanbul <+03>-3 6952:LMT,7016:IMT,7200:EET,10800:EEST,10800:+03,14400:+04 B156B1ADD8",
    "C39D52CC0 DA8021C8 c395C d1DDC4 c4F1C d3C04 c449C d4144 c497C dDAA4 c34DC d4F84 c395C d7E424",
    "c245C d1504 c6E3C d4804 c1E23C d5884 c2DBC d4B64 c3EFC d4984 c3EFC d46E4 c419C d4984 c419C",
    "d4984 c3EFC d5C344 cB0FC d4A44 c341C d4A3A8 c39C0 d3724 c515C d3424 c545C d3484 c53FC d39C4",
    "c497C d3F04 e20F4 f2B8C8 e179C c9484 d3FC0 c3C60 d44A0 c4440 d4440 c4440 d4440 c4440 d4440",
    "c4440 d4440 c46E0 d4440 c4440 d4440 c4440 d4440 c4440 d41A0 c46E0 d4440 c4440 d46E0 c4EC0",
    "d39C0 c4EC0 d39C0 c4EC0 d39C0 c5160 d3720 c5160 d3720 c5160 d39C0 c4EC0 d39C0 c4EC0 d39C0",
    "c5160 d3720 c5160 d3720 c5160 d3728 c5160 d39C0 c4EC0 d39C0 c4EC0 d39C0 c5160 d3780 c5100",
    "d3720 c5160 d39C0 c4EC0 d3A20 c4E60 d39C0 c5400 d3480 e3D70"],
   ["Europe/Jersey GMT0BST,M3.5.0/1,M10.5.0 -506:LMT,0:GMT,3600:BST,7200:CEST,3600:CET,7200:BDST",
    "b6B5880 c99928 b31E0 c46E0 b3CC0 c4680 b4740 c43E0 b44A0 c43E0 b4F20 c3C00 b44A0 c4140 b4980",
    "c4980 b3720 c4EC0 b3C60 c4EC0 b3F00 c4980 b3F00 c46E0 b41A0 c4C20 b3F00 c4980 b3F00 c46E0",
    "b41A0 c4980 b3F00 c4980 b3F00 c46E0 b4440 c4980 b3F00 c46E0 b41A0 c4980 b3F00 c4980 b3F00",
    "c46E0 b41A0 c4980 b5160 c24C0 d2FF4 e13FE8 d3720 e46E0 d4440 e4440 d4440 fD74 c198C b1F84",
    "c46E0 b41A0 c3C60 fA7C c2CA0 b1F84 c31E0 b56A0 c39C0 b4EC0 c3F00 b46E0 c41A0 b46E0 c4440",
    "b46E0 c41A0 b3F00 c46E0 b41A0 c4980 b3F00 c4C20 b3F00 c46E0 b41A0 c4980 b3F00 c4980 b3F00",
    "c46E0 b41A0 c41A0 b5160 c3720 b5160 c39C0 b4EC0 c3720 b5160 c3720 b5160 c3720 b5160 c3720",
    "b5400 c2A00 b1FAA0 c3480 b5400 c3480 b5400 c3480 b5400 c3480 b5400 c3720 b5160 c3720 b5160",
    "c3720 b5400 c3480 b5400 c3480 b5400 c39BC b4EC0 c39C0 b4EC0 c39C0 b4EC0 c39C0 b5160 c39C0",
    "b4EC0 c39C0 b4EC0 c39C0 b4EC0 c39C0 b4EC0 c39C0 b5160 c3720 b5160 c39C0 b4EC0 c39C0 b4EC0",
    "c39C0 b4EC0 c39C0 b4EC0 c39C0 b4EC0 c3C60"],
   ["Europe/Kaliningrad EET-2",
    "4920:LMT,3600:CET,7200:CEST,7200:EET,10800:EEST,10800:MSK,14400:MSD,10800:+03 B16F9D4048",
    "C2B69BC18 b3964 c49E8 b39C0 c4EC0 b39C0 cB8680 b16260 c3720 b46E0 c4440 b4440 c4440 d2F4",
    "e720 d45BC f3AE4 g12B7BC f449C g4444 f449C g4444 f449C g44A4 f4448 g4440 f4440 g4440 f4440",
    "g4440 f4440 g4440 f4440 e4440 d4444 e4440 d46E0 e4440 d4440 e4440 d4440 e4440 d4440 e4440",
    "d4440 e4440 d4440 e46E0 d4EC0 e39C0 d4EC0 e39C0 d4EC0 e39C0 d5160 e3720 d5160 e3720 d5160",
    "e39C0 d4EC0 e39C0 d4EC0 e39C0 d5160 e3720 d5160 e3720 d5160 e3720 d5160 e39C0 d4EC0 e39C0",
    "d4EC0 e39C0 d5160 h3720 d1EADC"],
   ["Europe/Kirov MSK-3 11928:LMT,10800:+03,14400:+04,18000:+05,14400:MSD,10800:MSK,14400:MSK",
    "b769BA0 c5DEF4 d1B2B1C c449C d4444 c449C d4444 c449C d44A4 c4448 d4440 c4440 d4440 c4440",
    "d4440 c4440 d4440 c4440 e4440 f4444 e4440 f46E0 c4440 e887C f4444 e4440 f4440 e4440 f4440",
    "e4440 f4440 e46E0 f4EC0 e39C0 f4EC0 e39C0 f4EC0 e39C0 f5160 e3720 f5160 e3720 f5160 e39C0",
    "f4EC0 e39C0 f4EC0 e39C0 f5160 e3720 f5160 e3720 f5160 e3720 f5160 e39C0 f4EC0 e39C0 f4EC0",
    "e39C0 f5160 g3720 f1EADC"],
   ["Europe/Kyiv EET-2EEST,M3.5.0/3,M10.5.0/4",
    "7324:LMT,7324:KMT,7200:EET,10800:MSK,7200:CEST,3600:CET,14400:MSD,10800:EEST B156B1AC64",
    "c17B800 DB8A71FC e604DC f9910 e3720 f46E0 dC58 g1402D8 d449C g4444 d449C g4444 d449C g44A4",
    "d4448 g4440 d4440 g4440 d4440 g4440 d4440 g4440 d4440 g4440 d4440 g4440 h24BC cAAA8 h4440",
    "c4440 h4440 c4440 h4440 c4440 h4440 c4440 h46E0 c4EC4"],
   ["Europe/Lisbon WET0WEST,M3.5.0/1,M10.5.0",
    "-2205:LMT,0:WET,3600:WEST,7200:WEMT,3600:CET,7200:CEST b7298E0 c2633C b3304 c2D00 b557C",
    "c3364 b557C c3364 b557C c33C4 b557C c3364 b557C c15720 b4020 cD200 b3F00 c46E0 b41A0 c4980",
    "b41A0 c4980 b3F00 cD200 b3F00 c4440 b4440 cCF60 b4440 c41A0 b46E0 c4980 b3F00 c4440 b4440",
    "c41A0 b46E0 c4980 b5160 c24C0 b54C0 c4380 b44A0 c3C00 dFBC c2A00 b1A44 c3480 dD1C c31E0",
    "b17A4 c31E0 dFBC c2F40 b17A4 c31E0 dFBC c2F40 b17A4 c3C60 b4440 c444C b4440 c4440 b4440",
    "c4440 b4440 c4440 b4440 c4440 b46E0 c4440 b4440 c4440 b4440 c4440 b4440 c4440 b4440 c4440",
    "b46E0 c4440 b4440 c4440 b4440 c4440 b4440 c4440 b4440 c4440 b4440 c4440 b46E0 c4440 b4440",
    "c4440 b4440 c4440 b4440 c4440 e4440 b55798 c4440 b4440 c46E4 b4440 c4440 b4440 c46E0 b41A0",
    "c443C b4440 c4440 b4440 c4440 b4440 c4440 b46E0 c4440 b4440 c4444 b4440 c4440 b4440 c4440",
    "b4440 c4440 b4440 c4440 b46E0 c4440 b4440 c4440 e4440 f4440 e4440 f4440 e4440 f4440 e4440",
    "c46E0"],
   ["Europe/Ljubljana CET-1CEST,M3.5.0,M10.5.0/3 3484:LMT,3600:CET,7200:CEST B15E37DAE4 C6BC53FFC",
    "bD2CC c3720 b46E0 c4440 b4440 c4440 b3EA0 c1413C0 b4440 c4440 b46E0 c4440 b4440 c4440 b4440",
    "c4440 b4440 c4440 b4440 c4440 b4440 c4440 b46E0 c4440 b4440 c4440 b4440 c4440 b4440 c4440",
    "b4440 c4440 b4440 c46E0"],
   ["Europe/Luxembourg CET-1CEST,M3.5.0,M10.5.0/3",
    "1476:LMT,3600:CET,7200:CEST,0:WET,3600:WEST,7200:WEST,3600:WET B1849D92BC C167BDEA4 b3424",
    "c4EBC b34E4 c4EC8 b39C0 d1A38 e2460 d516C e31D4 d5E88 e3538 d5468 e3898 d4984 e497C d3F08",
    "e4198 d46E4 e449C d43E4 e497C d3F04 e46DC d41A4 e497C d41A4 e497C d3F0C e46E0 d41A0 e4980",
    "d3F00 e4440 d4440 e41A0 d4980 e4440 d4440 e41A0 d46E0 e4980 d3F00 e4440 d4440 e41A0 d46E0",
    "e4980 d5160 e24C0 f1DA0 g1523C f3720 g46E0 f4440 b3F00 c4980 b3EA0 c5BE0 b34E0 c105000 b41A0",
    "c46E0 b4440 c4440 b4440 c46E0 b41A0 c4440 b4440 c4440 b4440 c4440 b4440 c4440 b46E0 c4440",
    "b4440 c4440 b4440 c4440 b4440 c4440 b4440 c4440 b4440 c4440 b46E0 c4440 b4440 c4440 b4440",
    "c4440 b4440 c4440 b4440 c4440 b4440 c46E0"],
   ["Europe/Madrid CET-1CEST,M3.5.0,M10.5.0/3",
    "-884:LMT,0:WET,3600:WEST,7200:WEMT,3600:CET,7200:CEST b6CB680 c93FBC b4144 c443C b44A4",
    "c26C3C b4024 cD1FC b3F04 c46DC b41A4 c4980 b41A0 c497C b3F04 c41E1C b2884 c443C dA7C c3A20",
    "b8AC8 e3C5C f1235C e2D64 f55DC e3F04 f497C e3F04 f497C e3F04 f497C e3F04 f1625C e39C4 fD1FFC",
    "e41A4 f46DC e41A4 f419C e4444 f46DC e41A4 f46E8 e4440 f4440 e4440 f46E0 e41A0 f4440 e4440",
    "f4440 e4440 f4440 e4440 f4440 e46E0 f4440 e4440 f4440 e4440 f4440 e4440 f4440 e4440 f4440",
    "e4440 f4440 e46E0 f4440 e4440 f4440 e4440 f4440 e4440 f4440 e4440 f4440 e4440 f46E0"],
   ["Europe/Malta CET-1CEST,M3.5.0,M10.5.0/3 3484:LMT,3600:CET,7200:CEST B170B8B864 C2A7B250C",
    "b2C9C c4444 b449C c3C04 b4F1C c36C4 b515C c3F04 b443C cA8F64 b14648 c3720 b46E0 c43E0 b3F00",
    "c49E0 b3E38 c44A8 b4C20 c3C58 b4C20 c3728 b5160 c96EF8 b2F3C c5BE4 b2CA0 c5BE0 b2CA0 c5E80",
    "b2CA0 c5BE0 b2CA0 c5940 b2F40 c5BE0 b2F40 c43E0 b4440 c4C80 b3780 c5108 b39BC c4EC4 b39BC",
    "c4EC4 b39BC c4EC4 b39BC c4EC4 b39BC c49E4 b413C c46E4 b4440 c4440 b4440 c4440 b4440 c4440",
    "b46E0 c4440 b4440 c4440 b4440 c4440 b4440 c4440 b4440 c4440 b4440 c4440 b46E0 c4440 b4440",
    "c4440 b4440 c4440 b4440 c4440 b4440 c4440 b4440 c46E0"],
   ["Europe/Minsk <+03>-3",
    "6616:LMT,6600:MMT,7200:EET,10800:MSK,7200:CEST,3600:CET,14400:MSD,10800:EEST,10800:+03",
    "B156B1AF28 C5362E010 DB8A6F28 e5E55C fB890 e3720 f46E0 e4440 d2214 g13A8DC d449C g4444 d449C",
    "g4444 d449C g44A4 d4448 g4440 d4440 g4440 d4440 g4440 d4440 g4440 d4440 g4440 d4440 hCF60",
    "c4444 h4440 c4440 h4440 c4440 h4440 c4440 h4440 c4440 h46E0 c4EC0 h39C0 c4EC0 h39C0 c4EC0",
    "h39C0 c5160 h3720 c5160 h3720 c5160 h39C0 c4EC0 h39C0 c4EC0 h39C0 c5160 h3720 c5160 h3720",
    "c5160 h3720 c5160 h39C0 c4EC0 h39C0 c4EC0 h39C0 c5160 i3720"],
   ["Europe/Monaco CET-1CEST,M3.5.0,M10.5.0/3",
    "1772:LMT,561:PMT,0:WET,3600:WEST,7200:WEMT,3600:CET,7200:CEST B16E0C8494 C23666BBB D9CF6DA1",
    "c28E0 d4140 c49E0 d3960 c4F20 d36C0 c51C0 d3180 c5E80 d3540 c5460 d38A0 c4980 d56A0 c31E0",
    "d41A0 c46E0 d4440 c4440 d4980 c3F00 d46E0 c41A0 d4980 c41A0 d4980 c3F00 d46E0 c41A0 d4980",
    "c3F00 d4440 c4440 d41A0 c4980 d4440 c4440 d41A0 c46E0 d4980 c3F00 d4440 c4440 d41A0 c46E0",
    "d4980 c5160 d24CC eA314 d39BC e39C4 d5948 e3720 d46E0 e4440 d4678 e4208 f3EA0 g10559C f443C",
    "g46E8 f41A0 g46E0 f4440 g4440 f4440 g46E0 f41A0 g4440 f4440 g4440 f4440 g4440 f4440 g4440",
    "f46E0 g4440 f4440 g4440 f4440 g4440 f4440 g4440 f4440 g4440 f4440 g4440 f46E0 g4440 f4440",
    "g4440 f4440 g4440 f4440 g4440 f4440 g4440 f4440 g46E0"],
   ["Europe/Moscow MSK-3",
    "9017:LMT,9017:MMT,9079:MMT,12679:MST,16279:MDST,14400:MSD,10800:MSK,18000:+05,7200:EET,10800:EEST,14400:MSK",
    "B156B1A5C7 c138780 D1DFD3B2 c4320 e3A1C d2824 e60BC F27CC97 g1130 fCDE0 hCBC f3D80 gB44",
    "i88E4 g42184 f1B2B1C g449C f4444 g449C f4444 g449C f44A4 g4448 f4440 g4440 f4440 g4440 f4440",
    "g4440 f4440 g4440 f4440 g4440 f4440 g46E0 j4440 i4444 g2A00 f1A3C g4440 f4440 g4440 f4440",
    "g4440 f4440 g4440 f46E0 g4EC0 f39C0 g4EC0 f39C0 g4EC0 f39C0 g5160 f3720 g5160 f3720 g5160",
    "f39C0 g4EC0 f39C0 g4EC0 f39C0 g5160 f3720 g5160 f3720 g5160 f3720 g5160 f39C0 g4EC0 f39C0",
    "g4EC0 f39C0 g5160 k3720 g1EADC"],
   ["Europe/Nicosia EET-2EEST,M3.5.0/3,M10.5.0/4 8008:LMT,7200:EET,10800:EEST B1A57203B8",
    "C64769128 b443C c5104 b37DC c4144 b419C c46E4 b449C c43E4 b443C c46E4 b419C c4444 b443C",
    "c4444 b443C c4444 b443C c4444 b46DC c4444 b443C c4444 b443C c4444 b443C c4444 b443C c4444",
    "b443C c4444 b46DC c4444 b443C c4444 b443C c4444 b443C c4444 b443C c4444 b443C c46E4 b443C",
    "c4444 b443C c4444 b4ECC"],
   ["Europe/Oslo CET-1CEST,M3.5.0,M10.5.0/3 2580:LMT,3600:CET,7200:CEST B172E9096C C2839BE94",
    "b3118 cCC480 b130EC c3720 b46E0 c4440 b4440 c4440 b4440 c73260 b46E0 c4440 b4440 c4440 b4440",
    "c4440 b4440 c4440 b4440 c4440 b46E0 c5160 b3720 c7C860 b41A0 c4440 b4440 c4440 b4440 c4440",
    "b4440 c4440 b46E0 c4440 b4440 c4440 b4440 c4440 b4440 c4440 b4440 c4440 b4440 c4440 b46E0",
    "c4440 b4440 c4440 b4440 c4440 b4440 c4440 b4440 c4440 b4440 c46E0"],
   ["Europe/Paris CET-1CEST,M3.5.0,M10.5.0/3",
    "561:LMT,561:PMT,0:WET,3600:WEST,7200:CEST,3600:CET,7200:WEMT B16BC480CF cAB120 D9E728A1",
    "c28E0 d4140 c49E0 d3960 c4F20 d36C0 c51C0 d3180 c5E80 d3540 c5460 d38A0 c4980 d56A0 c31E0",
    "d41A0 c46E0 d4440 c4440 d4980 c3F00 d46E0 c41A0 d4980 c41A0 d4980 c3F00 d46E0 c41A0 d4980",
    "c3F00 d4440 c4440 d41A0 c4980 d4440 c4440 d41A0 c46E0 d4980 c3F00 d4440 c4440 d41A0 c46E0",
    "d4980 c5160 d24CC e2990 f1464C e3720 f46E0 e4440 g35F4 d1084 g4208 f3EA0 e10559C f443C e46E8",
    "f41A0 e46E0 f4440 e4440 f4440 e46E0 f41A0 e4440 f4440 e4440 f4440 e4440 f4440 e4440 f46E0",
    "e4440 f4440 e4440 f4440 e4440 f4440 e4440 f4440 e4440 f4440 e4440 f46E0 e4440 f4440 e4440",
    "f4440 e4440 f4440 e4440 f4440 e4440 f4440 e46E0"],
   ["Europe/Riga EET-2EEST,M3.5.0/3,M10.5.0/4",
    "5794:LMT,5794:RMT,9394:LST,7200:EET,10800:MSK,7200:CEST,3600:CET,14400:MSD,10800:EEST",
    "B156B1B25E c147BA8 b39C0 c49E0 b1320 d3BAB8 E1AC77282 f7BBC gB770 f3720 g46E0 f4440 g4440",
    "e418 h138298 e449C h4444 e449C h4444 e449C h44A4 e4448 h4440 e4440 h4440 e4440 h4440 e4440",
    "h4440 e4440 i4440 d4444 i4440 d46E0 i4440 d4440 i4440 d4440 i4440 d4440 i4440 d4440 i4440",
    "d4440 i46E0 d4440 i4444 d4EC0 i39C0 d4EC0 i39C0 d5160 iBFA0"],
   ["Europe/Rome,Europe/San_Marino,Europe/Vatican CET-1CEST,M3.5.0,M10.5.0/3",
    "2996:LMT,2996:RMT,3600:CET,7200:CEST B13E23CD4C C32939924 dC15C0 c2C9C d4444 c449C d3C04",
    "c4F1C d36C4 c515C d3F04 c443C dA8F64 c14648 d3720 c46E0 d4440 c3EA0 d49E0 c3E38 d44A8 c4C20",
    "d3C58 c4C20 d3728 c5160 d96EF8 c2F3C d5BE4 c2CA0 d5BE0 c2CA0 d5E80 c2CA0 d5BE0 c2CA0 d5940",
    "c2F40 d5BE0 c2F40 d5BE0 c2CA0 d5940 c2F40 d5BE0 c2CA0 d5BE0 c2CA0 d5940 c2F40 d5BE0 c2F40",
    "d5940 c2F40 d46E8 c41A0 d4440 c4440 d4440 c4440 d4440 c4440 d4440 c46E0 d4440 c4440 d4440",
    "c4440 d4440 c4440 d4440 c4440 d4440 c4440 d4440 c46E0 d4440 c4440 d4440 c4440 d4440 c4440",
    "d4440 c4440 d4440 c4440 d46E0"],
   ["Europe/Samara <+04>-4 12020:LMT,10800:+03,14400:+04,18000:+05 b769BA0 c5DEF4 d1B2B1C c449C",
    "d4444 c449C d4444 c449C d44A4 c4448 d4440 c4440 d4440 c4440 d4440 c4440 d4440 c4440 b8884",
    "c4440 b46E0 c9064 d3C58 c4440 d4440 c4440 d4440 c4440 d4440 c4440 d46E0 c4EC0 d39C0 c4EC0",
    "d39C0 c4EC0 d39C0 c5160 d3720 c5160 d3720 c5160 d39C0 c4EC0 d39C0 c4EC0 d39C0 c5160 d3720",
    "c5160 d3720 c5160 d3720 c5160 d39C0 c4EC0 d39C0 c4EC0 b8B24 c3720"],
   ["Europe/Sarajevo CET-1CEST,M3.5.0,M10.5.0/3 4420:LMT,3600:CET,7200:CEST B15E37D73C C6BC543A4",
    "bD2CC c3720 b46E0 c4440 b4440 c4440 b3EA0 c1413C0 b4440 c4440 b46E0 c4440 b4440 c4440 b4440",
    "c4440 b4440 c4440 b4440 c4440 b4440 c4440 b46E0 c4440 b4440 c4440 b4440 c4440 b4440 c4440",
    "b4440 c4440 b4440 c46E0"],
   ["Europe/Saratov <+04>-4 11058:LMT,10800:+03,14400:+04,18000:+05 b769BA0 c5DEF4 d1B2B1C c449C",
    "d4444 c449C d4444 c449C d44A4 c4448 d4440 c4440 d4440 c4440 d4440 c4440 b8884 c4440 b4440",
    "c4440 b46E0 c4440 bCCC0 c4440 b4440 c4440 b4440 c4440 b4440 c46E0 b4EC0 c39C0 b4EC0 c39C0",
    "b4EC0 c39C0 b5160 c3720 b5160 c3720 b5160 c39C0 b4EC0 c39C0 b4EC0 c39C0 b5160 c3720 b5160",
    "c3720 b5160 c3720 b5160 c39C0 b4EC0 c39C0 b4EC0 c39C0 b5160 c3720 b1EADC c120C4"],
   ["Europe/Simferopol MSK-3",
    "8184:LMT,8160:SMT,7200:EET,10800:MSK,7200:CEST,3600:CET,14400:MSD,10800:EEST,14400:MSK",
    "B156B1A908 C5362E018 DB8A7540 e6149C f8950 e3720 f46E0 e4440 d3B4 g13C73C d449C g4444 d449C",
    "g4444 d449C g44A4 d4448 g4440 d4440 g4440 d4440 g4440 d4440 g4440 d4440 g4440 d4440 c6900",
    "hEEE4 c4440 h4440 c4440 h4440 gD14 d3728 g4440 d4440 g46D8 d4ECC h39C4 c4EC0 h39C0 c4EC0",
    "h39C0 c5160 h3720 c5160 h3720 c5160 h39C0 c4EC0 h39C0 c4EC0 h39C0 c5160 h3720 c5160 h3720",
    "c5160 h3720 c5160 h39C0 c4EC0 h39C0 c4EC0 h39C0 c5160 h3720 c5160 h3720 c5160 h39C0 c4EC0",
    "i39BC d4EB8"],
   ["Europe/Skopje CET-1CEST,M3.5.0,M10.5.0/3 5144:LMT,3600:CET,7200:CEST B15E37D468 C6BC54678",
    "bD2CC c3720 b46E0 c4440 b4440 c4440 b3EA0 c1413C0 b4440 c4440 b46E0 c4440 b4440 c4440 b4440",
    "c4440 b4440 c4440 b4440 c4440 b4440 c4440 b46E0 c4440 b4440 c4440 b4440 c4440 b4440 c4440",
    "b4440 c4440 b4440 c46E0"],
   ["Europe/Sofia EET-2EEST,M3.5.0/3,M10.5.0/4",
    "5596:LMT,7016:IMT,7200:EET,3600:CET,7200:CEST,10800:EEST B156B1B324 C1C0D14F4 D5A2367F8",
    "e3720 d46E0 e4440 d4440 c4444 f12304C c44A4 f467C c4204 f467C c41A8 f46D8 c41AC f4440 c4440",
    "f4440 c46E0 f4440 c4440 f4440 c4440 f4440 c4440 f4440 c4440 f4440 c4440 f4440 c46E0 f4438",
    "c443C f4444 c443C f4444 c443C f4444 c443C f4444 c443C f46E4 c4EBC f39D0"],
   ["Europe/Stockholm CET-1CEST,M3.5.0,M10.5.0/3 4332:LMT,3614:SET,3600:CET,7200:CEST B154D08494",
    "C277FD3CE D1EC918FE c3424 d21FB48 c41A0 d4440 c4440 d4440 c4440 d4440 c4440 d4440 c46E0",
    "d4440 c4440 d4440 c4440 d4440 c4440 d4440 c4440 d4440 c4440 d4440 c46E0 d4440 c4440 d4440",
    "c4440 d4440 c4440 d4440 c4440 d4440 c4440 d46E0"],
   ["Europe/Tallinn EET-2EEST,M3.5.0/3,M10.5.0/4",
    "5940:LMT,5940:TMT,3600:CET,7200:CEST,7200:EET,10800:MSK,14400:MSD,10800:EEST B156B1B1CC",
    "c146040 D6062C4 c39C0 b6BF8 E37343DC F243D4694 d97DC c9AF0 d3720 c46E0 d4440 f4074 g138A7C",
    "f449C g4444 f449C g4444 f449C g44A4 f4448 g4440 f4440 g4440 f4440 g4440 f4440 g4440 f4440",
    "h4440 e4444 h4440 e46E0 h4440 e4440 h4440 e4440 h4440 e4440 h4440 e4440 h4440 e4440 h46E0",
    "e4EC0 h39C0 e4EC0 h39C0 e4EC4 h39C0 e5160 h14AC0"],
   ["Europe/Tirane CET-1CEST,M3.5.0,M10.5.0/3 4760:LMT,3600:CET,7200:CEST B196A51968 C31C35308",
    "b145E8 c3720 b480 c109F18 b389C c4F24 b39BC c4FE4 b39BC c5164 b371C c5104 b377C c5104 b377C",
    "c5104 b39BC c4C84 b39BC c5164 b39BC c49E4 b3E3C c44A4 b4448 c4440 b4440 c4440 b4440 c4440",
    "b4440 c4440 b4440 c4440 b4440 c4440 b46E0 c4440 b4440 c4440 b4440 c4440 b4440 c4440 b4440",
    "c4440 b4440 c46E0"],
   ["Europe/Ulyanovsk <+04>-4 11616:LMT,10800:+03,14400:+04,18000:+05,7200:+02 b769BA0 c5DEF4",
    "d1B2B1C c449C d4444 c449C d4444 c449C d44A4 c4448 d4440 c4440 d4440 c4440 d4440 c4440 d4440",
    "c4440 b8884 c4440 b46E0 e8884 b2A00 c1A3C b4440 c4440 b4440 c4440 b4440 c4440 b4440 c46E0",
    "b4EC0 c39C0 b4EC0 c39C0 b4EC0 c39C0 b5160 c3720 b5160 c3720 b5160 c39C0 b4EC0 c39C0 b4EC0",
    "c39C0 b5160 c3720 b5160 c3720 b5160 c3720 b5160 c39C0 b4EC0 c39C0 b4EC0 c39C0 b5160 c3720",
    "b1EADC cC244"],
   ["Europe/Vaduz CET-1CEST,M3.5.0,M10.5.0/3 2284:LMT,3600:CET,7200:CEST B171CEE994 C5843656C",
    "b39C0 c4EC0 b39C0 c1496A4 b4440 c4440 b4440 c4440 b4440 c4440 b46E0 c4440 b4440 c4440 b4440",
    "c4440 b4440 c4440 b4440 c4440 b4440 c4440 b46E0 c4440 b4440 c4440 b4440 c4440 b4440 c4440",
    "b4440 c4440 b4440 c46E0"],
   ["Europe/Vienna CET-1CEST,M3.5.0,M10.5.0/3 3921:LMT,3600:CET,7200:CEST B16F9D442F C2B69B831",
    "b3964 c49E8 b39C0 c4EC0 b39C0 cD4A0 b3C60 cA7580 b16260 c3720 b46E0 c4440 b4440 c4440 b3C0",
    "c89A0 b4200 c43E0 b4440 c4980 b3F00 c10DB78 b419C c444C b4440 c4440 b4440 c4440 b4440 c4440",
    "b46E0 c4440 b4440 c4440 b4440 c4440 b4440 c4440 b4440 c4440 b4440 c4440 b46E0 c4440 b4440",
    "c4440 b4440 c4440 b4440 c4440 b4440 c4440 b4440 c46E0"],
   ["Europe/Vilnius EET-2EEST,M3.5.0/3,M10.5.0/4",
    "6076:LMT,5040:WMT,5736:KMT,3600:CET,7200:EET,10800:MSK,7200:CEST,14400:MSD,10800:EEST",
    "B156B1B144 C4598530C D5362B48 E16BE658 d215C fA9A44 g79D8 dBA10 g3720 d46E0 g4440 f2CF4",
    "h139DFC f449C h4444 f449C h4444 f449C h44A4 f4448 h4440 f4440 h4440 f4440 h4440 f4440 h4440",
    "f4440 i4440 e4444 i4440 e46E0 i4440 e4440 i4440 e4440 i4440 e4440 i4440 e4440 i4440 e4440",
    "i46E0 e4EC0 i39C0 e4EC0 g39C4 d4EC0 g39C0 e5160 i1D340"],
   ["Europe/Volgograd MSK-3 10660:LMT,10800:+03,14400:+04,18000:+05,14400:MSD,10800:MSK,14400:MSK",
    "B1A1F02BDC C13AEC474 d1B2B1C c449C d4444 c449C d4444 c449C d44A4 c4448 d4440 c4440 d4440",
    "c4440 d4440 c4440 e4440 f4444 e4440 f4440 e4440 f46E0 c4440 e887C f4444 e4440 f4440 e4440",
    "f4440 e4440 f4440 e46E0 f4EC0 e39C0 f4EC0 e39C0 f4EC0 e39C0 f5160 e3720 f5160 e3720 f5160",
    "e39C0 f4EC0 e39C0 f4EC0 e39C0 f5160 e3720 f5160 e3720 f5160 e3720 f5160 e39C0 f4EC0 e39C0",
    "f4EC0 e39C0 f5160 g3720 f1EADC c224A4 f1289C"],
   ["Europe/Warsaw CET-1CEST,M3.5.0,M10.5.0/3",
    "5040:LMT,5040:WMT,3600:CET,7200:CEST,7200:EET,10800:EEST B156B1B550 c130AA0 D163EC90 c3964",
    "d49E8 c39C0 d4EC0 e39C0 f4F1C e39C0 c172D8 d9A9EC c14340 d3720 c46E0 d4440 c44FC d4D9C c45BC",
    "d3D84 c4208 d4E60 c39C0 d4980 c3F00 d46E0 c41A0 d419FC c2CA0 d4440 c4440 d5BE0 c2F40 d4440",
    "c4440 d5940 c2F40 d5940 c2F40 d5940 c2F40 d5BE0 c2CA0 d6B220 c41A0 d46E0 c4440 d4440 c4440",
    "d46E0 c41A0 d4440 c4440 d4440 c4440 d4440 c4440 d4440 c46E0 d4440 c4440 d4440 c4440 d4440",
    "c4440 d4444 c4440 d4440 c4440 d4440 c46E0 d4440 c4440 d4440 c4440 d4440 c4440 d4440 c4440",
    "d4440 c4440 d46E0"],
   ["Europe/Zagreb CET-1CEST,M3.5.0,M10.5.0/3 3832:LMT,3600:CET,7200:CEST B15E37D988 C6BC54158",
    "bD2CC c3720 b46E0 c4440 b4440 c4440 b3EA0 c1413C0 b4440 c4440 b46E0 c4440 b4440 c4440 b4440",
    "c4440 b4440 c4440 b4440 c4440 b4440 c4440 b46E0 c4440 b4440 c4440 b4440 c4440 b4440 c4440",
    "b4440 c4440 b4440 c46E0"]]

end Inlay.Time.Zones
