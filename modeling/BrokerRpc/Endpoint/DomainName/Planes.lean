/-! # Characters of the further planes

Capital letters of rare scripts are read as small ones, and mathematical letters as plain ones.
-/
namespace BrokerRpc.DomainName

def planeLines : List String :=
  ["10400-10427 10428, 104b0-104d3 104d8, 10570~10594 10597, 10571-1057a 10598, 1057d-1058a 105a4",
   "1058d-10592 105b4, 10595 105bc, 10781-10782 2d0, 10783 e6, 10784 299, 10785 253",
   "10787~10789 2a3, 10788 ab66, 1078a 2a4, 1078b-1078c 256, 1078d 1d91, 1078e 258, 1078f 25e",
   "10790 2a9, 10791 264, 10792 262, 10793 260, 10794 29b, 10795 127, 10796 29c, 10797 267",
   "10798 284, 10799-1079a 2aa, 1079b 26c, 1079c 1df04, 1079d a78e, 1079e 26e, 1079f 1df05",
   "107a0 28e, 107a1 1df06, 107a2 f8, 107a3-107a4 276, 107a5 71, 107a6 27a, 107a7 1df08",
   "107a8-107a9 27d, 107aa 280, 107ab 2a8, 107ac 2a6, 107ad ab67, 107ae 2a7, 107af 288, 107b0 2c71",
   "107b2 28f, 107b3-107b4 2a1, 107b5 298, 107b6-107b8 1c0, 107b9 1df0a, 107ba 1df1e",
   "10c80-10cb2 10cc0, 10d50-10d65 10d70, 118a0-118bf 118c0, 16e40-16e5f 16e60, 16ea0-16eb8 16ebb",
   "1ccd6-1ccef 61, 1ccf0-1ccf9 30, 1d15e 1d157 1d165, 1d15f 1d158 1d165, 1d160 1d158 1d165 1d16e",
   "1d161 1d158 1d165 1d16f, 1d162 1d158 1d165 1d170, 1d163 1d158 1d165 1d171",
   "1d164 1d158 1d165 1d172, 1d1bb 1d1b9 1d165, 1d1bc 1d1ba 1d165, 1d1bd 1d1b9 1d165 1d16e",
   "1d1be 1d1ba 1d165 1d16e, 1d1bf 1d1b9 1d165 1d16f, 1d1c0 1d1ba 1d165 1d16f, 1d400-1d419 61",
   "1d41a-1d433 61, 1d434-1d44d 61, 1d44e~1d466 61, 1d44f-1d454 62, 1d457-1d467 6a, 1d468-1d481 61",
   "1d482-1d49b 61, 1d49c~1d49e 61, 1d49f 64, 1d4a2 67, 1d4a5-1d4a6 6a, 1d4a9-1d4ac 6e",
   "1d4ae-1d4b5 73, 1d4b6-1d4b9 61, 1d4bb~1d4cf 66, 1d4be-1d4c3 69, 1d4c6-1d4cf 71, 1d4d0-1d4e9 61",
   "1d4ea-1d503 61, 1d504-1d505 61, 1d507-1d50a 64, 1d50d-1d514 6a, 1d516-1d51c 73, 1d51e-1d537 61",
   "1d538-1d539 61, 1d53b-1d53e 64, 1d540-1d544 69, 1d546 6f, 1d54a-1d550 73, 1d552-1d56b 61",
   "1d56c-1d585 61, 1d586-1d59f 61, 1d5a0-1d5b9 61, 1d5ba-1d5d3 61, 1d5d4-1d5ed 61, 1d5ee-1d607 61",
   "1d608-1d621 61, 1d622-1d63b 61, 1d63c-1d655 61, 1d656-1d66f 61, 1d670-1d689 61, 1d68a-1d6a3 61",
   "1d6a4 131, 1d6a5 237, 1d6a8-1d6b8 3b1, 1d6b9 3b8, 1d6ba-1d6c0 3c3, 1d6c1 2207, 1d6c2-1d6d2 3b1",
   "1d6d3 3c3, 1d6d4-1d6da 3c3, 1d6db 2202, 1d6dc 3b5, 1d6dd 3b8, 1d6de 3ba, 1d6df 3c6, 1d6e0 3c1",
   "1d6e1 3c0, 1d6e2-1d6f2 3b1, 1d6f3 3b8, 1d6f4-1d6fa 3c3, 1d6fb 2207, 1d6fc-1d70c 3b1, 1d70d 3c3",
   "1d70e-1d714 3c3, 1d715 2202, 1d716 3b5, 1d717 3b8, 1d718 3ba, 1d719 3c6, 1d71a 3c1, 1d71b 3c0",
   "1d71c-1d72c 3b1, 1d72d 3b8, 1d72e-1d734 3c3, 1d735 2207, 1d736-1d746 3b1, 1d747 3c3",
   "1d748-1d74e 3c3, 1d74f 2202, 1d750 3b5, 1d751 3b8, 1d752 3ba, 1d753 3c6, 1d754 3c1, 1d755 3c0",
   "1d756-1d766 3b1, 1d767 3b8, 1d768-1d76e 3c3, 1d76f 2207, 1d770-1d780 3b1, 1d781 3c3",
   "1d782-1d788 3c3, 1d789 2202, 1d78a 3b5, 1d78b 3b8, 1d78c 3ba, 1d78d 3c6, 1d78e 3c1, 1d78f 3c0",
   "1d790-1d7a0 3b1, 1d7a1 3b8, 1d7a2-1d7a8 3c3, 1d7a9 2207, 1d7aa-1d7ba 3b1, 1d7bb 3c3",
   "1d7bc-1d7c2 3c3, 1d7c3 2202, 1d7c4 3b5, 1d7c5 3b8, 1d7c6 3ba, 1d7c7 3c6, 1d7c8 3c1, 1d7c9 3c0",
   "1d7ca 3dd, 1d7cb 3dd, 1d7ce-1d7d7 30, 1d7d8-1d7e1 30, 1d7e2-1d7eb 30, 1d7ec-1d7f5 30",
   "1d7f6-1d7ff 30, 1e030-1e038 430, 1e039-1e03b 43a, 1e03c-1e046 43e, 1e047 44b, 1e048-1e049 44d",
   "1e04a a689, 1e04b 4d9, 1e04c 456, 1e04d 458, 1e04e 4e9, 1e04f 4af, 1e050 4cf, 1e051-1e059 430",
   "1e05a-1e05b 43a, 1e05c-1e05d 43e, 1e05e 441, 1e05f-1e064 443, 1e065-1e066 44a, 1e067 491",
   "1e068 456, 1e069 455, 1e06a 45f, 1e06b 4ab, 1e06c a651, 1e06d 4b1, 1e900-1e921 1e922",
   "1ee00-1ee01 627, 1ee02 62c, 1ee03 62f, 1ee05 648, 1ee06 632, 1ee07 62d, 1ee08 637, 1ee09 64a",
   "1ee0a-1ee0d 643, 1ee0e 633, 1ee0f 639, 1ee10 641, 1ee11 635, 1ee12 642, 1ee13 631, 1ee14 634",
   "1ee15-1ee16 62a, 1ee17 62e, 1ee18 630, 1ee19 636, 1ee1a 638, 1ee1b 63a, 1ee1c 66e, 1ee1d 6ba",
   "1ee1e 6a1, 1ee1f 66f, 1ee21 628, 1ee22 62c, 1ee24 647, 1ee27 62d, 1ee29 64a, 1ee2a-1ee2d 643",
   "1ee2e 633, 1ee2f 639, 1ee30 641, 1ee31 635, 1ee32 642, 1ee34 634, 1ee35-1ee36 62a, 1ee37 62e",
   "1ee39 636, 1ee3b 63a, 1ee42 62c, 1ee47 62d, 1ee49 64a, 1ee4b~1ee4d 644, 1ee4e 633, 1ee4f 639",
   "1ee51 635, 1ee52 642, 1ee54 634, 1ee57 62e, 1ee59 636, 1ee5b 63a, 1ee5d 6ba, 1ee5f 66f",
   "1ee61 628, 1ee62 62c, 1ee64 647, 1ee67 62d, 1ee68 637, 1ee69 64a, 1ee6a~1ee6c 643, 1ee6d 646",
   "1ee6e 633, 1ee6f 639, 1ee70 641, 1ee71 635, 1ee72 642, 1ee74 634, 1ee75-1ee76 62a, 1ee77 62e",
   "1ee79 636, 1ee7a 638, 1ee7b 63a, 1ee7c 66e, 1ee7e 6a1, 1ee80-1ee81 627, 1ee82 62c, 1ee83 62f",
   "1ee84-1ee85 647, 1ee86 632, 1ee87 62d, 1ee88 637, 1ee89 64a, 1ee8b-1ee8d 644, 1ee8e 633",
   "1ee8f 639, 1ee90 641, 1ee91 635, 1ee92 642, 1ee93 631, 1ee94 634, 1ee95-1ee96 62a, 1ee97 62e",
   "1ee98 630, 1ee99 636, 1ee9a 638, 1ee9b 63a, 1eea1 628, 1eea2 62c, 1eea3 62f, 1eea5 648",
   "1eea6 632, 1eea7 62d, 1eea8 637, 1eea9 64a, 1eeab-1eead 644, 1eeae 633, 1eeaf 639, 1eeb0 641",
   "1eeb1 635, 1eeb2 642, 1eeb3 631, 1eeb4 634, 1eeb5-1eeb6 62a, 1eeb7 62e, 1eeb8 630, 1eeb9 636",
   "1eeba 638, 1eebb 63a, 1f101 30 2c, 1f102 31 2c, 1f103 32 2c, 1f104 33 2c, 1f105 34 2c",
   "1f106 35 2c, 1f107 36 2c, 1f108 37 2c, 1f109 38 2c, 1f10a 39 2c, 1f110 28 61 29",
   "1f111 28 62 29, 1f112 28 63 29, 1f113 28 64 29, 1f114 28 65 29, 1f115 28 66 29, 1f116 28 67 29",
   "1f117 28 68 29, 1f118 28 69 29, 1f119 28 6a 29, 1f11a 28 6b 29, 1f11b 28 6c 29, 1f11c 28 6d 29",
   "1f11d 28 6e 29, 1f11e 28 6f 29, 1f11f 28 70 29, 1f120 28 71 29, 1f121 28 72 29, 1f122 28 73 29",
   "1f123 28 74 29, 1f124 28 75 29, 1f125 28 76 29, 1f126 28 77 29, 1f127 28 78 29, 1f128 28 79 29",
   "1f129 28 7a 29, 1f12a 3014 73 3015, 1f12b 63, 1f12c 72, 1f12d 63 64, 1f12e 77 7a",
   "1f130-1f149 61, 1f14a 68 76, 1f14b 6d 76, 1f14c 73 64, 1f14d 73 73, 1f14e 70 70 76",
   "1f14f 77 63, 1f16a 6d 63, 1f16b 6d 64, 1f16c 6d 72, 1f190 64 6a, 1f200 307b 304b",
   "1f201 30b3 30b3, 1f202 30b5, 1f210 624b, 1f211 5b57, 1f212 53cc, 1f213 30c7, 1f214 4e8c",
   "1f215 591a, 1f216 89e3, 1f217 5929, 1f218 4ea4, 1f219 6620, 1f21a 7121, 1f21b 6599, 1f21c 524d",
   "1f21d 5f8c, 1f21e 518d, 1f21f 65b0, 1f220 521d, 1f221 7d42, 1f222 751f, 1f223 8ca9, 1f224 58f0",
   "1f225 5439, 1f226 6f14, 1f227 6295, 1f228 6355, 1f229 4e00, 1f22a 4e09, 1f22b 904a, 1f22c 5de6",
   "1f22d 4e2d, 1f22e 53f3, 1f22f 6307, 1f230 8d70, 1f231 6253, 1f232 7981, 1f233 7a7a, 1f234 5408",
   "1f235 6e80, 1f236 6709, 1f237 6708, 1f238 7533, 1f239 5272, 1f23a 55b6, 1f23b 914d",
   "1f240 3014 672c 3015, 1f241 3014 4e09 3015, 1f242 3014 4e8c 3015, 1f243 3014 5b89 3015",
   "1f244 3014 70b9 3015, 1f245 3014 6253 3015, 1f246 3014 76d7 3015, 1f247 3014 52dd 3015",
   "1f248 3014 6557 3015, 1f250 5f97, 1f251 53ef, 1fbf0-1fbf9 30"]

end BrokerRpc.DomainName
