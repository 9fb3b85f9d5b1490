/-!
# Code pages

Encodings of one byte for each character that agree with ASCII in the lower half. A page gives the
characters of the upper half in order: `-` is none, and `c*n` stands for `n` characters from `c` on.
-/

namespace GraphGateway.Text.Encoding

/-- The code pages, each under its names. -/
def pages : List (String × String) :=
 [
  ("1125 cp1125 cp866u ibm1125 ruscii",
   "410*48 2591*3 2502 2524 2561*2 2556 2555 2563 2551 2557 255D 255C 255B 2510 2514 2534 252C 251C 2500
    253C 255E*2 255A 2554 2569 2566 2560 2550 256C 2567*2 2564*2 2559 2558 2552*2 256B 256A 2518 250C 2588
    2584 258C 2590 2580 440*16 401 451 490*2 404 454 406 456 407 457 B7 221A 2116 A4 25A0 A0"),
  ("1250 cp1250 windows_1250",
   "20AC - 201A - 201E 2026 2020*2 - 2030 160 2039 15A 164 17D 179 - 2018*2 201C*2 2022 2013*2 - 2122 161
    203A 15B 165 17E 17A A0 2C7 2D8 141 A4 104 A6*4 15E AB*4 17B B0*2 2DB 142 B4*5 105 15F BB 13D 2DD 13E
    17C 154 C1*2 102 C4 139 106 C7 10C C9 118 CB 11A CD*2 10E 110 143 147 D3*2 150 D6*2 158 16E DA 170 DC*2
    162 DF 155 E1*2 103 E4 13A 107 E7 10D E9 119 EB 11B ED*2 10F 111 144 148 F3*2 151 F6*2 159 16F FA 171
    FC*2 163 2D9"),
  ("1251 cp1251 windows_1251",
   "402*2 201A 453 201E 2026 2020*2 20AC 2030 409 2039 40A 40C 40B 40F 452 2018*2 201C*2 2022 2013*2 - 2122
    459 203A 45A 45C 45B 45F A0 40E 45E 408 A4 490 A6*2 401 A9 404 AB*4 407 B0*2 406 456 491 B5*3 451 2116
    454 BB 458 405 455 457 410*64"),
  ("1252 cp1252 windows_1252",
   "20AC - 201A 192 201E 2026 2020*2 2C6 2030 160 2039 152 - 17D -*2 2018*2 201C*2 2022 2013*2 2DC 2122 161
    203A 153 - 17E 178 A0*96"),
  ("1253 cp1253 windows_1253",
   "20AC - 201A 192 201E 2026 2020*2 - 2030 - 2039 -*5 2018*2 201C*2 2022 2013*2 - 2122 - 203A -*4 A0 385*2
    A3*7 - AB*4 2015 B0*4 384 B5*3 388*3 BB 38C BD 38E*20 - 3A3*44 -"),
  ("1254 cp1254 windows_1254",
   "20AC - 201A 192 201E 2026 2020*2 2C6 2030 160 2039 152 -*4 2018*2 201C*2 2022 2013*2 2DC 2122 161 203A
    153 -*2 178 A0*48 11E D1*12 130 15E DF*17 11F F1*12 131 15F FF"),
  ("1255 cp1255 windows_1255",
   "20AC - 201A 192 201E 2026 2020*2 2C6 2030 - 2039 -*5 2018*2 201C*2 2022 2013*2 2DC 2122 - 203A -*4 A0*4
    20AA A5*5 D7 AB*15 F7 BB*5 5B0*10 - 5BB*9 5F0*5 -*7 5D0*27 -*2 200E*2 -"),
  ("1256 cp1256 windows_1256",
   "20AC 67E 201A 192 201E 2026 2020*2 2C6 2030 679 2039 152 686 698 688 6AF 2018*2 201C*2 2022 2013*2 6A9
    2122 691 203A 153 200C*2 6BA A0 60C A2*8 6BE AB*15 61B BB*4 61F 6C1 621*22 D7 637*4 640*4 E0 644 E2
    645*4 E7*5 649*2 EE*2 64B*4 F4 64F*2 F7 651 F9 652 FB*2 200E*2 6D2"),
  ("1257 cp1257 windows_1257",
   "20AC - 201A - 201E 2026 2020*2 - 2030 - 2039 - A8 2C7 B8 - 2018*2 201C*2 2022 2013*2 - 2122 - 203A - AF
    2DB - A0 - A2*3 - A6*2 D8 A9 156 AB*4 C6 B0*8 F8 B9 157 BB*4 E6 104 12E 100 106 C4*2 118 112 10C C9 179
    116 122 136 12A 13B 160 143 145 D3 14C D5*3 172 141 15A 16A DC 17B 17D DF 105 12F 101 107 E4*2 119 113
    10D E9 17A 117 123 137 12B 13C 161 144 146 F3 14D F5*3 173 142 15B 16B FC 17C 17E 2D9"),
  ("1258 cp1258 windows_1258",
   "20AC - 201A 192 201E 2026 2020*2 2C6 2030 - 2039 152 -*4 2018*2 201C*2 2022 2013*2 2DC 2122 - 203A 153
    -*2 178 A0*35 102 C4*8 300 CD*3 110 D1 309 D3*2 1A0 D6*7 1AF 303 DF*4 103 E4*8 301 ED*3 111 F1 323 F3*2
    1A1 F6*7 1B0 20AB FF"),
  ("437 cp437 cspc8codepage437 ibm437",
   "C7 FC E9 E2 E4 E0 E5 E7 EA*2 E8 EF EE EC C4*2 C9 E6 C6 F4 F6 F2 FB F9 FF D6 DC A2*2 A5 20A7 192 E1 ED F3
    FA F1 D1 AA BA BF 2310 AC BD BC A1 AB BB 2591*3 2502 2524 2561*2 2556 2555 2563 2551 2557 255D 255C 255B
    2510 2514 2534 252C 251C 2500 253C 255E*2 255A 2554 2569 2566 2560 2550 256C 2567*2 2564*2 2559 2558
    2552*2 256B 256A 2518 250C 2588 2584 258C 2590 2580 3B1 DF 393 3C0 3A3 3C3 B5 3C4 3A6 398 3A9 3B4 221E
    3C6 3B5 2229 2261 B1 2265 2264 2320*2 F7 2248 B0 2219 B7 221A 207F B2 25A0 A0"),
  ("775 cp775 cspc775baltic ibm775",
   "106 FC E9 101 E4 123 E5 107 142 113 156*2 12B 179 C4*2 C9 E6 C6 14D F6 122 A2 15A*2 D6 DC F8 A3 D8 D7 A4
    100 12A F3 17B*2 17A 201D A6 A9 AE AC BD BC 141 AB BB 2591*3 2502 2524 104 10C 118 116 2563 2551 2557
    255D 12E 160 2510 2514 2534 252C 251C 2500 253C 172 16A 255A 2554 2569 2566 2560 2550 256C 17D 105 10D
    119 117 12F 161 173 16B 17E 2518 250C 2588 2584 258C 2590 2580 D3 DF 14C 143 F5 D5 B5 144 136*2 13B*2
    146 112 145 2019 AD B1 201C BE B6 A7 F7 201E B0 2219 B7 B9 B3 B2 25A0 A0"),
  ("850 cp850 cspc850multilingual ibm850",
   "C7 FC E9 E2 E4 E0 E5 E7 EA*2 E8 EF EE EC C4*2 C9 E6 C6 F4 F6 F2 FB F9 FF D6 DC F8 A3 D8 D7 192 E1 ED F3
    FA F1 D1 AA BA BF AE AC BD BC A1 AB BB 2591*3 2502 2524 C1*2 C0 A9 2563 2551 2557 255D A2 A5 2510 2514
    2534 252C 251C 2500 253C E3 C3 255A 2554 2569 2566 2560 2550 256C A4 F0 D0 CA*2 C8 131 CD*3 2518 250C
    2588 2584 A6 CC 2580 D3 DF D4 D2 F5 D5 B5 FE DE DA*2 D9 FD DD AF B4 AD B1 2017 BE B6 A7 F7 B8 B0 A8 B7
    B9 B3 B2 25A0 A0"),
  ("852 cp852 cspcp852 ibm852",
   "C7 FC E9 E2 E4 16F 107 E7 142 EB 150*2 EE 179 C4 106 C9 139*2 F4 F6 13D*2 15A*2 D6 DC 164*2 141 D7 10D
    E1 ED F3 FA 104*2 17D*2 118*2 AC 17A 10C 15F AB BB 2591*3 2502 2524 C1*2 11A 15E 2563 2551 2557 255D
    17B*2 2510 2514 2534 252C 251C 2500 253C 102*2 255A 2554 2569 2566 2560 2550 256C A4 111 110 10E CB 10F
    147 CD*2 11B 2518 250C 2588 2584 162 16E 2580 D3 DF D4 143*2 148 160*2 154 DA 155 170 FD DD 163 B4 AD
    2DD 2DB 2C7 2D8 A7 F7 B8 B0 A8 2D9 171 158*2 25A0 A0"),
  ("855 cp855 csibm855 ibm855",
   "452 402 453 403 451 401 454 404 455 405 456 406 457 407 458 408 459 409 45A 40A 45B 40B 45C 40C 45E 40E
    45F 40F 44E 42E 44A 42A 430 410 431 411 446 426 434 414 435 415 444 424 433 413 AB BB 2591*3 2502 2524
    445 425 438 418 2563 2551 2557 255D 439 419 2510 2514 2534 252C 251C 2500 253C 43A 41A 255A 2554 2569
    2566 2560 2550 256C A4 43B 41B 43C 41C 43D 41D 43E 41E 43F 2518 250C 2588 2584 41F 44F 2580 42F 440 420
    441 421 442 422 443 423 436 416 432 412 44C 42C 2116 AD 44B 42B 437 417 448 428 44D 42D 449 429 447 427
    A7 25A0 A0"),
  ("857 cp857 csibm857 ibm857",
   "C7 FC E9 E2 E4 E0 E5 E7 EA*2 E8 EF EE 131 C4*2 C9 E6 C6 F4 F6 F2 FB F9 130 D6 DC F8 A3 D8 15E*2 E1 ED F3
    FA F1 D1 11E*2 BF AE AC BD BC A1 AB BB 2591*3 2502 2524 C1*2 C0 A9 2563 2551 2557 255D A2 A5 2510 2514
    2534 252C 251C 2500 253C E3 C3 255A 2554 2569 2566 2560 2550 256C A4 BA AA CA*2 C8 - CD*3 2518 250C 2588
    2584 A6 CC 2580 D3 DF D4 D2 F5 D5 B5 - D7 DA*2 D9 EC FF AF B4 AD B1 - BE B6 A7 F7 B8 B0 A8 B7 B9 B3 B2
    25A0 A0"),
  ("858 cp858 csibm858 ibm858",
   "C7 FC E9 E2 E4 E0 E5 E7 EA*2 E8 EF EE EC C4*2 C9 E6 C6 F4 F6 F2 FB F9 FF D6 DC F8 A3 D8 D7 192 E1 ED F3
    FA F1 D1 AA BA BF AE AC BD BC A1 AB BB 2591*3 2502 2524 C1*2 C0 A9 2563 2551 2557 255D A2 A5 2510 2514
    2534 252C 251C 2500 253C E3 C3 255A 2554 2569 2566 2560 2550 256C A4 F0 D0 CA*2 C8 20AC CD*3 2518 250C
    2588 2584 A6 CC 2580 D3 DF D4 D2 F5 D5 B5 FE DE DA*2 D9 FD DD AF B4 AD B1 2017 BE B6 A7 F7 B8 B0 A8 B7
    B9 B3 B2 25A0 A0"),
  ("860 cp860 csibm860 ibm860",
   "C7 FC E9 E2*2 E0 C1 E7 EA CA E8 CD D4 EC C3 C2 C9 C0 C8 F4*2 F2 DA F9 CC D5 DC A2*2 D9 20A7 D3 E1 ED F3
    FA F1 D1 AA BA BF D2 AC BD BC A1 AB BB 2591*3 2502 2524 2561*2 2556 2555 2563 2551 2557 255D 255C 255B
    2510 2514 2534 252C 251C 2500 253C 255E*2 255A 2554 2569 2566 2560 2550 256C 2567*2 2564*2 2559 2558
    2552*2 256B 256A 2518 250C 2588 2584 258C 2590 2580 3B1 DF 393 3C0 3A3 3C3 B5 3C4 3A6 398 3A9 3B4 221E
    3C6 3B5 2229 2261 B1 2265 2264 2320*2 F7 2248 B0 2219 B7 221A 207F B2 25A0 A0"),
  ("861 cp861 cp_is csibm861 ibm861",
   "C7 FC E9 E2 E4 E0 E5 E7 EA*2 E8 D0 F0 DE C4*2 C9 E6 C6 F4 F6 FE FB DD FD D6 DC F8 A3 D8 20A7 192 E1 ED
    F3 FA C1 CD D3 DA BF 2310 AC BD BC A1 AB BB 2591*3 2502 2524 2561*2 2556 2555 2563 2551 2557 255D 255C
    255B 2510 2514 2534 252C 251C 2500 253C 255E*2 255A 2554 2569 2566 2560 2550 256C 2567*2 2564*2 2559
    2558 2552*2 256B 256A 2518 250C 2588 2584 258C 2590 2580 3B1 DF 393 3C0 3A3 3C3 B5 3C4 3A6 398 3A9 3B4
    221E 3C6 3B5 2229 2261 B1 2265 2264 2320*2 F7 2248 B0 2219 B7 221A 207F B2 25A0 A0"),
  ("862 cp862 cspc862latinhebrew ibm862",
   "5D0*27 A2*2 A5 20A7 192 E1 ED F3 FA F1 D1 AA BA BF 2310 AC BD BC A1 AB BB 2591*3 2502 2524 2561*2 2556
    2555 2563 2551 2557 255D 255C 255B 2510 2514 2534 252C 251C 2500 253C 255E*2 255A 2554 2569 2566 2560
    2550 256C 2567*2 2564*2 2559 2558 2552*2 256B 256A 2518 250C 2588 2584 258C 2590 2580 3B1 DF 393 3C0 3A3
    3C3 B5 3C4 3A6 398 3A9 3B4 221E 3C6 3B5 2229 2261 B1 2265 2264 2320*2 F7 2248 B0 2219 B7 221A 207F B2
    25A0 A0"),
  ("863 cp863 csibm863 ibm863",
   "C7 FC E9 E2 C2 E0 B6 E7 EA*2 E8 EF EE 2017 C0 A7 C9 C8 CA F4 CB CF FB F9 A4 D4 DC A2*2 D9 DB 192 A6 B4
    F3 FA A8 B8 B3 AF CE 2310 AC BD BC BE AB BB 2591*3 2502 2524 2561*2 2556 2555 2563 2551 2557 255D 255C
    255B 2510 2514 2534 252C 251C 2500 253C 255E*2 255A 2554 2569 2566 2560 2550 256C 2567*2 2564*2 2559
    2558 2552*2 256B 256A 2518 250C 2588 2584 258C 2590 2580 3B1 DF 393 3C0 3A3 3C3 B5 3C4 3A6 398 3A9 3B4
    221E 3C6 3B5 2229 2261 B1 2265 2264 2320*2 F7 2248 B0 2219 B7 221A 207F B2 25A0 A0"),
  ("865 cp865 csibm865 ibm865",
   "C7 FC E9 E2 E4 E0 E5 E7 EA*2 E8 EF EE EC C4*2 C9 E6 C6 F4 F6 F2 FB F9 FF D6 DC F8 A3 D8 20A7 192 E1 ED
    F3 FA F1 D1 AA BA BF 2310 AC BD BC A1 AB A4 2591*3 2502 2524 2561*2 2556 2555 2563 2551 2557 255D 255C
    255B 2510 2514 2534 252C 251C 2500 253C 255E*2 255A 2554 2569 2566 2560 2550 256C 2567*2 2564*2 2559
    2558 2552*2 256B 256A 2518 250C 2588 2584 258C 2590 2580 3B1 DF 393 3C0 3A3 3C3 B5 3C4 3A6 398 3A9 3B4
    221E 3C6 3B5 2229 2261 B1 2265 2264 2320*2 F7 2248 B0 2219 B7 221A 207F B2 25A0 A0"),
  ("866 cp866 csibm866 ibm866",
   "410*48 2591*3 2502 2524 2561*2 2556 2555 2563 2551 2557 255D 255C 255B 2510 2514 2534 252C 251C 2500
    253C 255E*2 255A 2554 2569 2566 2560 2550 256C 2567*2 2564*2 2559 2558 2552*2 256B 256A 2518 250C 2588
    2584 258C 2590 2580 440*16 401 451 404 454 407 457 40E 45E B0 2219 B7 221A 2116 A4 25A0 A0"),
  ("869 cp869 cp_gr csibm869 ibm869",
   "-*6 386 - B7 AC A6 2018*2 388 2015 389*2 3AA 38C -*2 38E 3AB A9 38F B2*2 3AC A3 3AD*3 3CA 390 3CC*2
    391*7 BD 398*2 AB BB 2591*3 2502 2524 39A*4 2563 2551 2557 255D 39E*2 2510 2514 2534 252C 251C 2500 253C
    3A0*2 255A 2554 2569 2566 2560 2550 256C 3A3*7 3B1*3 2518 250C 2588 2584 3B4*2 2580 3B6*12 3C3 3C2 3C4
    384 AD B1 3C5*3 A7 3C8 385 B0 A8 3C9 3CB 3B0 3CE 25A0 A0"),
  ("8859 charmap cp819 csisolatin1 ibm819 iso8859 iso8859_1 iso_8859_1 iso_8859_1_1987 iso_ir_100 l1 latin latin1 latin_1",
   "80*128"),
  ("arabic asmo_708 csisolatinarabic ecma_114 iso8859_6 iso_8859_6 iso_8859_6_1987 iso_ir_127",
   "80*33 -*3 A4 -*7 60C AD -*13 61B -*3 61F - 621*26 -*5 640*19 -*13"),
  ("cp1006",
   "80*33 6F0*10 60C 61B AD 61F FE81 FE8D*2 FE8E*2 FE91 FB56 FB58 FE93 FE95 FE97 FB66 FB68 FE99 FE9B FE9D
    FE9F FB7A FB7C FEA1 FEA3 FEA5 FEA7 FEA9 FB84 FEAB FEAD FB8C FEAF FB8A FEB1 FEB3 FEB5 FEB7 FEB9 FEBB FEBD
    FEBF FEC1 FEC5 FEC9*9 FED3 FED5 FED7 FED9 FEDB FB92 FB94 FEDD FEDF*3 FEE3 FB9E FEE5 FEE7 FE85 FEED FBA6
    FBA8*3 FE80 FE89*3 FEF1*3 FBB0 FBAE FE7C*2"),
  ("cp1051 hp_roman8 ibm1051 r8 roman8",
   "80*33 C0 C2 C8 CA*2 CE*2 B4 2CB 2C6 A8 2DC D9 DB 20A4 AF DD FD B0 C7 E7 D1 F1 A1 BF A4 A3 A5 A7 192 A2
    E2 EA F4 FB E1 E9 F3 FA E0 E8 F2 F9 E4 EB F6 FC C5 EE D8 C6 E5 ED F8 E6 C4 EC D6 DC C9 EF DF D4 C1 C3 E3
    D0 F0 CD CC D3 D2 D5 F5 160*2 DA 178 FF DE FE B7 B5*2 BE 2014 BC*2 AA BA AB 25A0 BB B1 -"),
  ("cp154 csptcp154 cyrillic_asian pt154 ptcp154",
   "496 492 4EE 493 201E 2026 4B6 4AE 4B2 4AF 4A0 4E2 4A2 49A 4BA 4B8 497 2018*2 201C*2 2022 2013*2 4B3 4B7
    4A1 4E3 4A3 49B 4BB 4B9 A0 40E 45E 408 4E8 498 4B0 A7 401 A9 4D8 AB*2 4EF AE 49C B0 4B1 406 456 499 4E9
    B6*2 451 2116 4D9 BB 458 4AA*2 49D 410*64"),
  ("cp720",
   "80*2 E9 E2 84 E0 86 E7 EA*2 E8 EF EE 8D*4 651*2 F4 A4 640 FB F9 621*4 A3 625*17 AB BB 2591*3 2502 2524
    2561*2 2556 2555 2563 2551 2557 255D 255C 255B 2510 2514 2534 252C 251C 2500 253C 255E*2 255A 2554 2569
    2566 2560 2550 256C 2567*2 2564*2 2559 2558 2552*2 256B 256A 2518 250C 2588 2584 258C 2590 2580 636*5
    641 B5 642*9 2261 64B*6 2248 B0 2219 B7 221A 207F B2 25A0 A0"),
  ("cp737",
   "391*17 3A3*7 3B1*17 3C3 3C2 3C4*5 2591*3 2502 2524 2561*2 2556 2555 2563 2551 2557 255D 255C 255B 2510
    2514 2534 252C 251C 2500 253C 255E*2 255A 2554 2569 2566 2560 2550 256C 2567*2 2564*2 2559 2558 2552*2
    256B 256A 2518 250C 2588 2584 258C 2590 2580 3C9 3AC*3 3CA 3AF 3CC*2 3CB 3CE 386 388*3 38C 38E*2 B1 2265
    2264 3AA*2 F7 2248 B0 2219 B7 221A 207F B2 25A0 A0"),
  ("cp856",
   "5D0*27 - A3 - D7 -*10 AE AC BD BC - AB BB 2591*3 2502 2524 -*3 A9 2563 2551 2557 255D A2 A5 2510 2514
    2534 252C 251C 2500 253C -*2 255A 2554 2569 2566 2560 2550 256C A4 -*9 2518 250C 2588 2584 A6 - 2580 -*6
    B5 -*7 AF B4 AD B1 2017 BE B6 A7 F7 B8 B0 A8 B7 B9 B3 B2 25A0 A0"),
  ("cp874",
   "20AC -*4 2026 -*11 2018*2 201C*2 2022 2013*2 -*8 A0 E01*58 -*4 E3F*29 -*4"),
  ("csisolatin2 iso8859_2 iso_8859_2 iso_8859_2_1987 iso_ir_101 l2 latin2",
   "80*33 104 2D8 141 A4 13D 15A A7*2 160 15E 164 179 AD 17D 17B B0 105 2DB 142 B4 13E 15B 2C7 B8 161 15F
    165 17A 2DD 17E 17C 154 C1*2 102 C4 139 106 C7 10C C9 118 CB 11A CD*2 10E 110 143 147 D3*2 150 D6*2 158
    16E DA 170 DC*2 162 DF 155 E1*2 103 E4 13A 107 E7 10D E9 119 EB 11B ED*2 10F 111 144 148 F3*2 151 F6*2
    159 16F FA 171 FC*2 163 2D9"),
  ("csisolatin3 iso8859_3 iso_8859_3 iso_8859_3_1988 iso_ir_109 l3 latin3",
   "80*33 126 2D8 A3*2 - 124 A7*2 130 15E 11E 134 AD - 17B B0 127 B2*4 125 B7*2 131 15F 11F 135 BD - 17C
    C0*3 - C4 10A 108 C7*9 - D1*4 120 D6*2 11C D9*4 16C 15C DF*4 - E4 10B 109 E7*9 - F1*4 121 F6*2 11D F9*4
    16D 15D 2D9"),
  ("csisolatin4 iso8859_4 iso_8859_4 iso_8859_4_1988 iso_ir_110 l4 latin4",
   "80*33 104 138 156 A4 128 13B A7*2 160 112 122 166 AD 17D AF*2 105 2DB 157 B4 129 13C 2C7 B8 161 113 123
    167 14A 17E 14B 100 C1*6 12E 10C C9 118 CB 116 CD*2 12A 110 145 14C 136 D4*5 172 DA*3 168 16A DF 101
    E1*6 12F 10D E9 119 EB 117 ED*2 12B 111 146 14D 137 F4*5 173 FA*3 169 16B 2D9"),
  ("csisolatin5 iso8859_9 iso_8859_9 iso_8859_9_1989 iso_ir_148 l5 latin5",
   "80*80 11E D1*12 130 15E DF*17 11F F1*12 131 15F FF"),
  ("csisolatin6 iso8859_10 iso_8859_10 iso_8859_10_1992 iso_ir_157 l6 latin6",
   "80*33 104 112 122 12A 128 136 A7 13B 110 160 166 17D AD 16A 14A B0 105 113 123 12B 129 137 B7 13C 111
    161 167 17E 2015 16B 14B 100 C1*6 12E 10C C9 118 CB 116 CD*4 145 14C D3*4 168 D8 172 DA*6 101 E1*6 12F
    10D E9 119 EB 117 ED*4 146 14D F3*4 169 F8 173 FA*5 138"),
  ("csisolatincyrillic cyrillic iso8859_5 iso_8859_5 iso_8859_5_1988 iso_ir_144",
   "80*33 401*12 AD 40E*66 2116 451*12 A7 45E*2"),
  ("csisolatingreek ecma_118 elot_928 greek greek8 iso8859_7 iso_8859_7 iso_8859_7_1987 iso_ir_126",
   "80*33 2018*2 A3 20AC 20AF A6*4 37A AB*3 - 2015 B0*4 384*3 B7 388*3 BB 38C BD 38E*20 - 3A3*44 -"),
  ("csisolatinhebrew hebrew iso8859_8 iso_8859_8 iso_8859_8_1988 iso_ir_138",
   "80*33 - A2*8 D7 AB*15 F7 BB*4 -*32 2017 5D0*27 -*2 200E*2 -"),
  ("cskoi8r koi8_r",
   "2500 2502 250C 2510 2514 2518 251C 2524 252C 2534 253C 2580 2584 2588 258C 2590*4 2320 25A0 2219*2 2248
    2264*2 A0 2321 B0 B2 B7 F7 2550*3 451 2553*15 401 2562*11 A9 44E 430*2 446 434*2 444 433 445 438*8 44F
    440*4 436 432 44C 44B 437 448 44D 449 447 44A 42E 410*2 426 414*2 424 413 425 418*8 42F 420*4 416 412
    42C 42B 417 428 42D 429 427 42A"),
  ("iso8859_11 iso_8859_11 iso_8859_11_2001 thai",
   "80*33 E01*58 -*4 E3F*29 -*4"),
  ("iso8859_13 iso_8859_13 l7 latin7",
   "80*33 201D A2*3 201E A6*2 D8 A9 156 AB*4 C6 B0*4 201C B5*3 F8 B9 157 BB*4 E6 104 12E 100 106 C4*2 118
    112 10C C9 179 116 122 136 12A 13B 160 143 145 D3 14C D5*3 172 141 15A 16A DC 17B 17D DF 105 12F 101 107
    E4*2 119 113 10D E9 17A 117 123 137 12B 13C 161 144 146 F3 14D F5*3 173 142 15B 16B FC 17C 17E 2019"),
  ("iso8859_14 iso_8859_14 iso_8859_14_1998 iso_celtic iso_ir_199 l8 latin8",
   "80*33 1E02*2 A3 10A*2 1E0A A7 1E80 A9 1E82 1E0B 1EF2 AD*2 178 1E1E*2 120*2 1E40*2 B6 1E56 1E81 1E57 1E83
    1E60 1EF3 1E84*2 1E61 C0*16 174 D1*6 1E6A D8*6 176 DF*17 175 F1*6 1E6B F8*6 177 FF"),
  ("iso8859_15 iso_8859_15 l9 latin9",
   "80*36 20AC A5 160 A7 161 A9*11 17D B5*3 17E B9*3 152*2 178 BF*65"),
  ("iso8859_16 iso_8859_16 iso_8859_16_2001 iso_ir_226 l10 latin10",
   "80*33 104*2 141 20AC 201E 160 A7 161 A9 218 AB 179 AD 17A*2 B0*2 10C 142 17D 201D B6*2 17E 10D 219 BB
    152*2 178 17C C0*3 102 C4 106 C6*10 110 143 D2*3 150 D6 15A 170 D9*4 118 21A DF*4 103 E4 107 E6*10 111
    144 F2*3 151 F6 15B 171 F9*4 119 21B FF"),
  ("iso_ir_166 tis620 tis_620 tis_620_0 tis_620_2529_0 tis_620_2529_1",
   "80*32 - E01*58 -*4 E3F*29 -*4"),
  ("koi8_t",
   "49B 493 201A 492 201E 2026 2020*2 - 2030 4B3 2039 4B2 4B7 4B6 - 49A 2018*2 201C*2 2022 2013*2 - 2122 -
    203A -*5 4EF 4EE 451 A4 4E3 A6*2 -*3 AB*4 - B0*3 401 - 4E2 B6*2 - 2116 - BB -*3 A9 44E 430*2 446 434*2
    444 433 445 438*8 44F 440*4 436 432 44C 44B 437 448 44D 449 447 44A 42E 410*2 426 414*2 424 413 425
    418*8 42F 420*4 416 412 42C 42B 417 428 42D 429 427 42A"),
  ("koi8_u",
   "2500 2502 250C 2510 2514 2518 251C 2524 252C 2534 253C 2580 2584 2588 258C 2590*4 2320 25A0 2219*2 2248
    2264*2 A0 2321 B0 B2 B7 F7 2550*3 451 454 2554 456*2 2557*5 491 255D*5 401 404 2563 406*2 2566*5 490
    256C A9 44E 430*2 446 434*2 444 433 445 438*8 44F 440*4 436 432 44C 44B 437 448 44D 449 447 44A 42E
    410*2 426 414*2 424 413 425 418*8 42F 420*4 416 412 42C 42B 417 428 42D 429 427 42A"),
  ("kz1048 kz_1048 rk1048 strk1048_2002",
   "402*2 201A 453 201E 2026 2020*2 20AC 2030 409 2039 40A 49A 4BA 40F 452 2018*2 201C*2 2022 2013*2 - 2122
    459 203A 45A 49B 4BB 45F A0 4B0*2 4D8 A4 4E8 A6*2 401 A9 492 AB*4 4AE B0*2 406 456 4E9 B5*3 451 2116 493
    BB 4D9 4A2*2 4AF 410*64"),
  ("mac_arabic",
   "C4 A0 C7 C9 D1 D6 DC E1 E0 E2 E4 6BA AB E7 E9 E8 EA*2 ED 2026 EE*2 F1 F3 BB F4 F6*2 FA F9 FB*2 20*5 66A
    26*6 60C 2D*3 660*10 3A 61B 3C*3 61F 274A 621*26 5B*5 640*19 67E 679 686 6D5 6A4 6AF 688 691 7B*3 698
    6D2"),
  ("mac_centeuro mac_latin2 maccentraleurope maclatin2",
   "C4 100*2 C9 104 D6 DC E1 105 10C E4 10D 106*2 E9 179*2 10E ED 10F 112*2 116 F3 117 F4 F6 F5 FA 11A*2 FC
    2020 B0 118 A3 A7 2022 B6 DF AE A9 2122 119 A8 2260 123 12E*2 12A 2264*2 12B 136 2202 2211 142 13B*4
    139*2 145*2 143 AC 221A 144 147 2206 AB BB 2026 A0 148 150 D5 151 14C 2013*2 201C*2 2018*2 F7 25CA 14D
    154*2 158 2039*2 159 156*2 160 201A 201E 161 15A*2 C1 164*2 CD 17D*2 16A D3*2 16B 16E DA 16F*5 DD FD 137
    17B 141 17C 122 2C7"),
  ("mac_croatian",
   "C4*2 C7 C9 D1 D6 DC E1 E0 E2 E4 E3 E5 E7 E9 E8 EA*2 ED EC EE*2 F1 F3 F2 F4 F6 F5 FA F9 FB*2 2020 B0 A2*2
    A7 2022 B6 DF AE 160 2122 B4 A8 2260 17D D8 221E B1 2264*2 2206 B5 2202 2211 220F 161 222B AA BA 3A9 17E
    F8 BF A1 AC 221A 192 2248 106 AB 10C 2026 A0 C0 C3 D5 152*2 110 2014 201C*2 2018*2 F7 25CA F8FF A9 2044
    20AC 2039*2 C6 BB 2013 B7 201A 201E 2030 C2 107 C1 10D C8 CD*3 CC D3*2 111 D2 DA*2 D9 131 2C6 2DC AF 3C0
    CB 2DA B8 CA E6 2C7"),
  ("mac_cyrillic maccyrillic",
   "410*32 2020 B0 490 A3 A7 2022 B6 406 AE A9 2122 402 452 2260 403 453 221E B1 2264*2 456 B5 491 408 404
    454 407 457 409 459 40A 45A 458 405 AC 221A 192 2248 2206 AB BB 2026 A0 40B 45B 40C 45C 455 2013*2
    201C*2 2018*2 F7 201E 40E 45E 40F 45F 2116 401 451 44F 430*31 20AC"),
  ("mac_farsi",
   "C4 A0 C7 C9 D1 D6 DC E1 E0 E2 E4 6BA AB E7 E9 E8 EA*2 ED 2026 EE*2 F1 F3 BB F4 F6*2 FA F9 FB*2 20*5 66A
    26*6 60C 2D*3 6F0*10 3A 61B 3C*3 61F 274A 621*26 5B*5 640*19 67E 679 686 6D5 6A4 6AF 688 691 7B*3 698
    6D2"),
  ("mac_greek macgreek",
   "C4 B9 B2 C9 B3 D6 DC 385 E0 E2 E4 384 A8 E7 E9 E8 EA*2 A3 2122 EE*2 2022 BD 2030 F4 F6 A6 20AC F9 FB*2
    2020 393*2 398 39B 39E 3A0 DF AE A9 3A3 3AA A7 2260 B0 B7 391 B1 2264*2 A5 392 395*3 399*2 39C 3A6 3AB
    3A8*2 3AC 39D AC 39F 3A1 2248 3A4 AB BB 2026 A0 3A5 3A7 386 388 153 2013 2015 201C*2 2018*2 F7 389*2 38C
    38E 3AD*3 3CC 38F 3CD 3B1*2 3C8 3B4*2 3C6 3B3 3B7 3B9 3BE 3BA*4 3BF*2 3CE 3C1 3C3*2 3B8 3C9 3C2 3C7 3C5
    3B6 3CA*2 390 3B0 AD"),
  ("mac_iceland maciceland",
   "C4*2 C7 C9 D1 D6 DC E1 E0 E2 E4 E3 E5 E7 E9 E8 EA*2 ED EC EE*2 F1 F3 F2 F4 F6 F5 FA F9 FB*2 DD B0 A2*2
    A7 2022 B6 DF AE A9 2122 B4 A8 2260 C6 D8 221E B1 2264*2 A5 B5 2202 2211 220F 3C0 222B AA BA 3A9 E6 F8
    BF A1 AC 221A 192 2248 2206 AB BB 2026 A0 C0 C3 D5 152*2 2013*2 201C*2 2018*2 F7 25CA FF 178 2044 20AC
    D0 F0 DE FE FD B7 201A 201E 2030 C2 CA C1 CB C8 CD*3 CC D3*2 F8FF D2 DA*2 D9 131 2C6 2DC AF 2D8*3 B8 2DD
    2DB 2C7"),
  ("mac_roman macintosh macroman",
   "C4*2 C7 C9 D1 D6 DC E1 E0 E2 E4 E3 E5 E7 E9 E8 EA*2 ED EC EE*2 F1 F3 F2 F4 F6 F5 FA F9 FB*2 2020 B0 A2*2
    A7 2022 B6 DF AE A9 2122 B4 A8 2260 C6 D8 221E B1 2264*2 A5 B5 2202 2211 220F 3C0 222B AA BA 3A9 E6 F8
    BF A1 AC 221A 192 2248 2206 AB BB 2026 A0 C0 C3 D5 152*2 2013*2 201C*2 2018*2 F7 25CA FF 178 2044 20AC
    2039*2 FB01*2 2021 B7 201A 201E 2030 C2 CA C1 CB C8 CD*3 CC D3*2 F8FF D2 DA*2 D9 131 2C6 2DC AF 2D8*3 B8
    2DD 2DB 2C7"),
  ("mac_romanian",
   "C4*2 C7 C9 D1 D6 DC E1 E0 E2 E4 E3 E5 E7 E9 E8 EA*2 ED EC EE*2 F1 F3 F2 F4 F6 F5 FA F9 FB*2 2020 B0 A2*2
    A7 2022 B6 DF AE A9 2122 B4 A8 2260 102 218 221E B1 2264*2 A5 B5 2202 2211 220F 3C0 222B AA BA 3A9 103
    219 BF A1 AC 221A 192 2248 2206 AB BB 2026 A0 C0 C3 D5 152*2 2013*2 201C*2 2018*2 F7 25CA FF 178 2044
    20AC 2039*2 21A*2 2021 B7 201A 201E 2030 C2 CA C1 CB C8 CD*3 CC D3*2 F8FF D2 DA*2 D9 131 2C6 2DC AF
    2D8*3 B8 2DD 2DB 2C7"),
  ("mac_turkish macturkish",
   "C4*2 C7 C9 D1 D6 DC E1 E0 E2 E4 E3 E5 E7 E9 E8 EA*2 ED EC EE*2 F1 F3 F2 F4 F6 F5 FA F9 FB*2 2020 B0 A2*2
    A7 2022 B6 DF AE A9 2122 B4 A8 2260 C6 D8 221E B1 2264*2 A5 B5 2202 2211 220F 3C0 222B AA BA 3A9 E6 F8
    BF A1 AC 221A 192 2248 2206 AB BB 2026 A0 C0 C3 D5 152*2 2013*2 201C*2 2018*2 F7 25CA FF 178 11E*2 130*2
    15E*2 2021 B7 201A 201E 2030 C2 CA C1 CB C8 CD*3 CC D3*2 F8FF D2 DA*2 D9 F8A0 2C6 2DC AF 2D8*3 B8 2DD
    2DB 2C7"),
  ("palmos",
   "20AC 81 201A 192 201E 2026 2020*2 2C6 2030 160 2039 152 2666 2663 2665 2660 2018*2 201C*2 2022 2013*2
    2DC 2122 161 9B 153 9D*2 178 A0*96")]

end GraphGateway.Text.Encoding
