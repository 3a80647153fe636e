import ScriptRunner.Text.Composed
import ScriptRunner.Url.Percent

/-!
# Characters of domain names

What a character of a domain name is taken for, after the Unicode standard for such names. It may
stand for itself, for nothing, for another text, which is often its lower case form, or it may not
be used at all.
-/

namespace ScriptRunner.Url

open Text

/-- What characters outside ASCII stand for. Those of a run with the letter `V` stand for
themselves, `X` cannot be used, and `I` stand for nothing. Those with `M` stand for the character
with the number that is written and its successors in turn, those with `S` all for the same text,
and in a run with `P` every other character stands for its successor. -/
def mapping : Table := .ofWords 0x80 "
  20X M20 7V S20.308 V M61 2V I V S20.304 2V 2M32 S20.301 M3bc 2V S20.327 M31 M6f V S31.2044.34
  S31.2044.32 S33.2044.34 V 17Me0 V 7Mf8 21V 30P S69.307 V 2S69.6a 4P V 6P 2S6c.b7 8P S2bc.6e 2eP
  Mff 6P M73 V M253 4P M254 2P 2M256 2P V M1dd M259 M25b 2P M260 M263 V M269 M268 2P 2V M26f M272
  V M275 6P M280 2P M283 2V 2P M288 2P 2M28a 4P M292 2P 2V 2P 6V 3S64.17e 3S6c.6a 3S6e.6a 10P V
  12P V 3S64.7a 2P M195 M1bf 28P M19e V 12P 6V M2c65 2P M19a M2c66 2V 2P M180 M289 M28c aP 60V M68
  M266 M6a M72 M279 M27b M281 M77 M79 1fV S20.306 S20.307 S20.30a S20.328 S20.303 S20.30b 2V M263
  M6c M73 M78 M295 5bV 2M300 V M313 S308.301 M3b9 9V I 20V 4P M2b9 V 2P 2X S20.3b9 3V M3b M3f3 4X
  S20.301 S20.308.301 M3ac Mb7 3M3ad X M3cc X 2M3cd V 11M3b1 X 9M3c3 23V M3d7 M3b2 M3b8 M3c5 M3cd
  M3cb M3c6 M3c0 V 18P M3ba M3c1 M3c3 V M3b8 M3b5 V 2P M3c3 2P V 3M37b 10M450 20M430 30V 22P 8V
  36P M4cf eP V 60P X 26M561 2X 2eV S565.582 3V 2X 3V X 37V 8X 1bV 4X 6V 11X 16V X 58V S627.674
  S648.674 S6c7.674 S64a.674 64V X 30V 2X 3bV 2X 65V eX 3bV 2X 31V 2X fV X 1cV 2X V X bV 5X 20V 7X
  4bV X 75V S915.93c S916.93c S917.93c S91c.93c S921.93c S922.93c S92b.93c S92f.93c 24V X 8V 2X 2V
  2X 16V X 7V X V 3X 4V 2X 9V 2X 2V 2X 4V 8X V 4X S9a1.9bc S9a2.9bc X S9af.9bc 4V 2X 19V 2X 3V X
  6V 4X 2V 2X 16V X 7V X V Sa32.a3c X V Sa38.a3c X 2V 2X V X 5V 4X 2V 2X 3V 3X V 7X Sa16.a3c
  Sa17.a3c Sa1c.a3c V X Sa2b.a3c 7X 11V aX 3V X 9V X 3V X 16V X 7V X 2V X 5V 2X aV X 3V X 3V 2X V
  fX 4V 2X cV 7X 7V X 3V X 8V 2X 2V 2X 16V X 7V X 2V X 5V 2X 9V 2X 2V 2X 3V 7X 3V 4X Sb21.b3c
  Sb22.b3c X 5V 2X 12V aX 2V X 6V 3X 3V X 4V 3X 2V X V X 2V 3X 2V 3X 3V 3X cV 4X 5V 3X 3V X 4V 2X
  V 6X V eX 15V 5X dV X 3V X 17V X 10V 2X 9V X 3V X 4V 7X 2V X 3V X 2V 2X 4V 2X aV 7X 16V X 3V X
  17V X aV X 5V 2X 9V X 3V X 4V 7X 2V 5X 3V X 4V 2X aV X 3V cX dV X 3V X 33V X 3V X 6V 4X 10V 2X
  1aV X 3V X 12V 3X 18V X 9V X V 2X 7V 3X V 4X 6V X V X 8V 6X aV 2X 3V cX 32V Se4d.e32 7V 4X 1dV
  25X 2V X V X 5V X 18V X V X cV Secd.eb2 aV 2X 5V X V X 7V X aV 2X Seab.e99 Seab.ea1 2V 20X cV
  Mf0b 36V Sf42.fb7 4V X 4V Sf4c.fb7 4V Sf51.fb7 4V Sf56.fb7 4V Sf5b.fb7 cV Sf40.fb5 3V 4X 2V
  Sf71.f72 V Sf71.f74 Sfb2.f80 Sfb2.f71.f80 Sfb3.f80 Sfb3.f71.f80 7V Sf71.f80 11V Sf92.fb7 4V X 4V
  Sf9c.fb7 4V Sfa1.fb7 4V Sfa6.fb7 4V Sfab.fb7 cV Sf90.fb5 3V X fV X dV 25X a0V 26M2d00 X M2d27 5X
  M2d2d 2X 2cV M10dc 62V 2I e8V X 4V 2X 7V X V X 4V 2X 29V X 4V 2X 21V X 4V 2X 7V X V X 4V 2X fV X
  39V X 4V 2X 43V 2X 20V 3X 1aV 6X 56V 2X 6M13f0 2X 280V X 1cV 3X 59V 7X 16V 9X 18V 9X 14V cX dV X
  3V X 2V cX 34V 2I 28V 2X aV 6X aV 6X bV 5I aV 6X 59V 7X 2bV 5X 46V aX 1fV X cV 4X cV 4X V 3X 2aV
  2X 5V bX 2cV 4X 1aV 6X bV 3X 3eV 2X 41V X 1dV 2X bV 6X aV 6X eV 2X 2eV 2X cV 14X 4dV X a6V 8X
  3cV 3X fV 3X 33V M432 M434 M43e 2M441 M442 M44a M463 Ma64b 2P 5X 2bM10d0 2X 3M10fd 8V 8X 2bV 5X
  2cV M61 Me6 M62 V 2M64 M1dd 8M67 V M6f M223 M70 M72 2M74 M77 M61 2M250 M1d02 M62 2M64 M259 2M25b
  M67 V M6b M6d M14b M6f M254 2M1d16 M70 2M74 M1d1d M26f M76 M1d25 3M3b2 2M3c6 M69 M72 2M75 2M3b2
  M3c1 2M3c6 dV M43d 22V M252 M63 M255 Mf0 M25c M66 M25f M261 M265 3M268 M1d7b M29d M26d M1d85
  M29f M271 M270 4M272 M278 2M282 M1ab 2M289 M1d1c 2M28b M7a 3M290 M3b8 40V 96P 4V S61.2be M1e61
  2V Mdf V 60P 8V 8M1f00 6V 2X 6M1f10 2X 8V 8M1f20 8V 8M1f30 6V 2X 6M1f40 2X 8V X M1f51 X M1f53 X
  M1f55 X M1f57 8V 8M1f60 V M3ac V M3ad V M3ae V M3af V M3cc V M3cd V M3ce 2X S1f00.3b9 S1f01.3b9
  S1f02.3b9 S1f03.3b9 S1f04.3b9 S1f05.3b9 S1f06.3b9 S1f07.3b9 S1f00.3b9 S1f01.3b9 S1f02.3b9
  S1f03.3b9 S1f04.3b9 S1f05.3b9 S1f06.3b9 S1f07.3b9 S1f20.3b9 S1f21.3b9 S1f22.3b9 S1f23.3b9
  S1f24.3b9 S1f25.3b9 S1f26.3b9 S1f27.3b9 S1f20.3b9 S1f21.3b9 S1f22.3b9 S1f23.3b9 S1f24.3b9
  S1f25.3b9 S1f26.3b9 S1f27.3b9 S1f60.3b9 S1f61.3b9 S1f62.3b9 S1f63.3b9 S1f64.3b9 S1f65.3b9
  S1f66.3b9 S1f67.3b9 S1f60.3b9 S1f61.3b9 S1f62.3b9 S1f63.3b9 S1f64.3b9 S1f65.3b9 S1f66.3b9
  S1f67.3b9 2V S1f70.3b9 S3b1.3b9 S3ac.3b9 X V S1fb6.3b9 2M1fb0 M1f70 M3ac S3b1.3b9 S20.313 M3b9
  S20.313 S20.342 S20.308.342 S1f74.3b9 S3b7.3b9 S3ae.3b9 X V S1fc6.3b9 M1f72 M3ad M1f74 M3ae
  S3b7.3b9 S20.313.300 S20.313.301 S20.313.342 3V M390 2X 2V 2M1fd0 M1f76 M3af X S20.314.300
  S20.314.301 S20.314.342 3V M3b0 4V 2M1fe0 M1f7a M3cd M1fe5 S20.308.300 S20.308.301 M60 2X
  S1f7c.3b9 S3c9.3b9 S3ce.3b9 X V S1ff6.3b9 M1f78 M3cc M1f7c M3ce S3c9.3b9 S20.301 S20.314 X bS20
  I 2V 2X V M2010 5V S20.333 cV 3X V 7X M20 3V S2032.2032 S2032.2032.2032 V S2035.2035
  S2035.2035.2035 4V S21.21 V S20.305 8V S3f.3f S3f.21 S21.3f dV S2032.2032.2032.2032 7V M20 5I 5X
  6I M30 M69 2X 6M34 M2b M2212 M3d 2M28 M6e aM30 M2b M2212 M3d 2M28 X M61 M65 M6f M78 M259 M68
  4M6b M70 2M73 3X 8V S72.73 19V eX 21V fX S61.2f.63 S61.2f.73 M63 Sb0.63 V S63.2f.6f S63.2f.75
  M25b V Sb0.66 2M67 3S68 M127 2S69 2S6c V M6e S6e.6f 2V 3M70 2S72 2V S73.6d S74.65.6c S74.6d V
  M7a V M3c9 V M7a V M6b Me5 2M62 V 2S65 M66 M214e M6d M6f 4M5d0 M69 V S66.61.78 M3c0 2S3b3 M3c0
  M2211 4V 2S64 M65 2M69 6V S31.2044.37 S31.2044.39 S31.2044.31.30 S31.2044.33 S32.2044.33
  S31.2044.35 S32.2044.35 S33.2044.35 S34.2044.35 S31.2044.36 S35.2044.36 S31.2044.38 S33.2044.38
  S35.2044.38 S37.2044.38 S31.2044 M69 S69.69 S69.69.69 S69.76 M76 S76.69 S76.69.69 S76.69.69.69
  S69.78 M78 S78.69 S78.69.69 M6c 2M63 M6d M69 S69.69 S69.69.69 S69.76 M76 S76.69 S76.69.69
  S76.69.69.69 S69.78 M78 S78.69 S78.69.69 M6c 2M63 M6d 3V 2P 4V S30.2044.33 2V 4X 9cV S222b.222b
  S222b.222b.222b V S222e.222e S222e.222e.222e f8V 2M3008 ffV 16X bV 15X 9M31 S31.30 S31.31 S31.32
  S31.33 S31.34 S31.35 S31.36 S31.37 S31.38 S31.39 S32.30 S28.31.29 S28.32.29 S28.33.29 S28.34.29
  S28.35.29 S28.36.29 S28.37.29 S28.38.29 S28.39.29 S28.31.30.29 S28.31.31.29 S28.31.32.29
  S28.31.33.29 S28.31.34.29 S28.31.35.29 S28.31.36.29 S28.31.37.29 S28.31.38.29 S28.31.39.29
  S28.32.30.29 14X S28.61.29 S28.62.29 S28.63.29 S28.64.29 S28.65.29 S28.66.29 S28.67.29 S28.68.29
  S28.69.29 S28.6a.29 S28.6b.29 S28.6c.29 S28.6d.29 S28.6e.29 S28.6f.29 S28.70.29 S28.71.29
  S28.72.29 S28.73.29 S28.74.29 S28.75.29 S28.76.29 S28.77.29 S28.78.29 S28.79.29 S28.7a.29 1aM61
  1aM61 M30 521V S222b.222b.222b.222b 67V S3a.3a.3d S3d.3d S3d.3d.3d 65V S2add.338 97V 2X 8aV
  30M2c30 30V 2P M26b M1d7d M27d 2V 6P M251 M271 M250 M252 V 2P V 2P 5V M6a M76 2M23f 64P 7V 4P 3V
  2P 5X 2dV X V 5X V 2X 38V 7X M2d61 V eX 18V 9X 7V X 7V X 7V X 7V X 7V X 7V X 7V X 7V X 7eV 22X
  1aV X 4V M6bcd 53V M9f9f cX M4e00 M4e28 M4e36 M4e3f M4e59 M4e85 M4e8c M4ea0 M4eba M513f M5165
  M516b M5182 M5196 M51ab M51e0 M51f5 M5200 M529b M52f9 M5315 M531a M5338 M5341 M535c M5369 M5382
  M53b6 M53c8 M53e3 M56d7 M571f M58eb M5902 M590a M5915 M5927 M5973 M5b50 M5b80 M5bf8 M5c0f M5c22
  M5c38 M5c6e M5c71 M5ddb M5de5 M5df1 M5dfe M5e72 M5e7a M5e7f M5ef4 M5efe M5f0b M5f13 M5f50 M5f61
  M5f73 M5fc3 M6208 M6236 M624b M652f M6534 M6587 M6597 M65a4 M65b9 M65e0 M65e5 M66f0 M6708 M6728
  M6b20 M6b62 M6b79 M6bb3 M6bcb M6bd4 M6bdb M6c0f M6c14 M6c34 M706b M722a M7236 M723b M723f M7247
  M7259 M725b M72ac M7384 M7389 M74dc M74e6 M7518 M751f M7528 M7530 M758b M7592 M7676 M767d M76ae
  M76bf M76ee M77db M77e2 M77f3 M793a M79b8 M79be M7a74 M7acb M7af9 M7c73 M7cf8 M7f36 M7f51 M7f8a
  M7fbd M8001 M800c M8012 M8033 M807f M8089 M81e3 M81ea M81f3 M81fc M820c M821b M821f M826e M8272
  M8278 M864d M866b M8840 M884c M8863 M897e M898b M89d2 M8a00 M8c37 M8c46 M8c55 M8c78 M8c9d M8d64
  M8d70 M8db3 M8eab M8eca M8f9b M8fb0 M8fb5 M9091 M9149 M91c6 M91cc M91d1 M9577 M9580 M961c M96b6
  M96b9 M96e8 M9751 M975e M9762 M9769 M97cb M97ed M97f3 M9801 M98a8 M98db M98df M9996 M9999 M99ac
  M9aa8 M9ad8 M9adf M9b25 M9b2f M9b32 M9b3c M9b5a M9ce5 M9e75 M9e7f M9ea5 M9ebb M9ec3 M9ecd M9ed1
  M9ef9 M9efd M9f0e M9f13 M9f20 M9f3b M9f4a M9f52 M9f8d M9f9c M9fa0 2aX M20 V M2e 33V M3012 V
  M5341 2M5344 5V X 56V 2X 2V S20.3099 S20.309a 2V S3088.308a 5fV S30b3.30c8 5X 2bV X 2M1100 M11aa
  M1102 2M11ac 3M1103 6M11b0 M111a 3M1106 M1121 aM1109 15M1161 I 2M1114 2M11c7 M11cc M11ce M11d3
  M11d7 M11d9 M111c M11dd M11df 2M111d M1120 2M1122 M1127 M1129 5M112b M1132 M1136 M1140 M1147
  M114c 2M11f1 3M1157 2M1184 M1188 2M1191 M1194 M119e M11a1 X 2V M4e00 M4e8c M4e09 M56db M4e0a
  M4e2d M4e0b M7532 M4e59 M4e19 M4e01 M5929 M5730 M4eba 46V aX 10V S28.1100.29 S28.1102.29
  S28.1103.29 S28.1105.29 S28.1106.29 S28.1107.29 S28.1109.29 S28.110b.29 S28.110c.29 S28.110e.29
  S28.110f.29 S28.1110.29 S28.1111.29 S28.1112.29 S28.ac00.29 S28.b098.29 S28.b2e4.29 S28.b77c.29
  S28.b9c8.29 S28.bc14.29 S28.c0ac.29 S28.c544.29 S28.c790.29 S28.cc28.29 S28.ce74.29 S28.d0c0.29
  S28.d30c.29 S28.d558.29 S28.c8fc.29 S28.c624.c804.29 S28.c624.d6c4.29 X S28.4e00.29 S28.4e8c.29
  S28.4e09.29 S28.56db.29 S28.4e94.29 S28.516d.29 S28.4e03.29 S28.516b.29 S28.4e5d.29 S28.5341.29
  S28.6708.29 S28.706b.29 S28.6c34.29 S28.6728.29 S28.91d1.29 S28.571f.29 S28.65e5.29 S28.682a.29
  S28.6709.29 S28.793e.29 S28.540d.29 S28.7279.29 S28.8ca1.29 S28.795d.29 S28.52b4.29 S28.4ee3.29
  S28.547c.29 S28.5b66.29 S28.76e3.29 S28.4f01.29 S28.8cc7.29 S28.5354.29 S28.796d.29 S28.4f11.29
  S28.81ea.29 S28.81f3.29 M554f M5e7c M6587 M7b8f 8V S70.74.65 S32.31 S32.32 S32.33 S32.34 S32.35
  S32.36 S32.37 S32.38 S32.39 S33.30 S33.31 S33.32 S33.33 S33.34 S33.35 M1100 2M1102 3M1105 M1109
  2M110b 5M110e Mac00 Mb098 Mb2e4 Mb77c Mb9c8 Mbc14 Mc0ac Mc544 Mc790 Mcc28 Mce74 Md0c0 Md30c
  Md558 Scc38.ace0 Sc8fc.c758 Mc6b0 V M4e00 M4e8c M4e09 M56db M4e94 M516d M4e03 M516b M4e5d M5341
  M6708 M706b M6c34 M6728 M91d1 M571f M65e5 M682a M6709 M793e M540d M7279 M8ca1 M795d M52b4 M79d8
  M7537 M5973 M9069 M512a M5370 M6ce8 M9805 M4f11 M5199 M6b63 M4e0a M4e2d M4e0b M5de6 M53f3 M533b
  M5b97 M5b66 M76e3 M4f01 M8cc7 M5354 M591c S33.36 S33.37 S33.38 S33.39 S34.30 S34.31 S34.32
  S34.33 S34.34 S34.35 S34.36 S34.37 S34.38 S34.39 S35.30 S31.6708 S32.6708 S33.6708 S34.6708
  S35.6708 S36.6708 S37.6708 S38.6708 S39.6708 S31.30.6708 S31.31.6708 S31.32.6708 S68.67
  S65.72.67 S65.76 S6c.74.64 M30a2 M30a4 M30a6 M30a8 2M30aa M30ad M30af M30b1 M30b3 M30b5 M30b7
  M30b9 M30bb M30bd M30bf M30c1 M30c4 M30c6 M30c8 6M30ca M30d2 M30d5 M30d8 M30db 5M30de M30e4
  M30e6 6M30e8 4M30ef S4ee4.548c S30a2.30d1.30fc.30c8 S30a2.30eb.30d5.30a1 S30a2.30f3.30da.30a2
  S30a2.30fc.30eb S30a4.30cb.30f3.30b0 S30a4.30f3.30c1 S30a6.30a9.30f3 S30a8.30b9.30af.30fc.30c9
  S30a8.30fc.30ab.30fc S30aa.30f3.30b9 S30aa.30fc.30e0 S30ab.30a4.30ea S30ab.30e9.30c3.30c8
  S30ab.30ed.30ea.30fc S30ac.30ed.30f3 S30ac.30f3.30de S30ae.30ac S30ae.30cb.30fc
  S30ad.30e5.30ea.30fc S30ae.30eb.30c0.30fc S30ad.30ed S30ad.30ed.30b0.30e9.30e0
  S30ad.30ed.30e1.30fc.30c8.30eb S30ad.30ed.30ef.30c3.30c8 S30b0.30e9.30e0
  S30b0.30e9.30e0.30c8.30f3 S30af.30eb.30bc.30a4.30ed S30af.30ed.30fc.30cd S30b1.30fc.30b9
  S30b3.30eb.30ca S30b3.30fc.30dd S30b5.30a4.30af.30eb S30b5.30f3.30c1.30fc.30e0
  S30b7.30ea.30f3.30b0 S30bb.30f3.30c1 S30bb.30f3.30c8 S30c0.30fc.30b9 S30c7.30b7 S30c9.30eb
  S30c8.30f3 S30ca.30ce S30ce.30c3.30c8 S30cf.30a4.30c4 S30d1.30fc.30bb.30f3.30c8 S30d1.30fc.30c4
  S30d0.30fc.30ec.30eb S30d4.30a2.30b9.30c8.30eb S30d4.30af.30eb S30d4.30b3 S30d3.30eb
  S30d5.30a1.30e9.30c3.30c9 S30d5.30a3.30fc.30c8 S30d6.30c3.30b7.30a7.30eb S30d5.30e9.30f3
  S30d8.30af.30bf.30fc.30eb S30da.30bd S30da.30cb.30d2 S30d8.30eb.30c4 S30da.30f3.30b9
  S30da.30fc.30b8 S30d9.30fc.30bf S30dd.30a4.30f3.30c8 S30dc.30eb.30c8 S30db.30f3 S30dd.30f3.30c9
  S30db.30fc.30eb S30db.30fc.30f3 S30de.30a4.30af.30ed S30de.30a4.30eb S30de.30c3.30cf
  S30de.30eb.30af S30de.30f3.30b7.30e7.30f3 S30df.30af.30ed.30f3 S30df.30ea
  S30df.30ea.30d0.30fc.30eb S30e1.30ac S30e1.30ac.30c8.30f3 S30e1.30fc.30c8.30eb S30e4.30fc.30c9
  S30e4.30fc.30eb S30e6.30a2.30f3 S30ea.30c3.30c8.30eb S30ea.30e9 S30eb.30d4.30fc
  S30eb.30fc.30d6.30eb S30ec.30e0 S30ec.30f3.30c8.30b2.30f3 S30ef.30c3.30c8 S30.70b9 S31.70b9
  S32.70b9 S33.70b9 S34.70b9 S35.70b9 S36.70b9 S37.70b9 S38.70b9 S39.70b9 S31.30.70b9 S31.31.70b9
  S31.32.70b9 S31.33.70b9 S31.34.70b9 S31.35.70b9 S31.36.70b9 S31.37.70b9 S31.38.70b9 S31.39.70b9
  S32.30.70b9 S32.31.70b9 S32.32.70b9 S32.33.70b9 S32.34.70b9 S68.70.61 S64.61 S61.75 S62.61.72
  S6f.76 S70.63 S64.6d S64.6d.32 S64.6d.33 S69.75 S5e73.6210 S662d.548c S5927.6b63 S660e.6cbb
  S682a.5f0f.4f1a.793e S70.61 S6e.61 S3bc.61 S6d.61 S6b.61 S6b.62 S6d.62 S67.62 S63.61.6c
  S6b.63.61.6c S70.66 S6e.66 S3bc.66 S3bc.67 S6d.67 S6b.67 S68.7a S6b.68.7a S6d.68.7a S67.68.7a
  S74.68.7a S3bc.6c S6d.6c S64.6c S6b.6c S66.6d S6e.6d S3bc.6d S6d.6d S63.6d S6b.6d S6d.6d.32
  S63.6d.32 S6d.32 S6b.6d.32 S6d.6d.33 S63.6d.33 S6d.33 S6b.6d.33 S6d.2215.73 S6d.2215.73.32
  S70.61 S6b.70.61 S6d.70.61 S67.70.61 S72.61.64 S72.61.64.2215.73 S72.61.64.2215.73.32 S70.73
  S6e.73 S3bc.73 S6d.73 S70.76 S6e.76 S3bc.76 S6d.76 S6b.76 S6d.76 S70.77 S6e.77 S3bc.77 S6d.77
  S6b.77 S6d.77 S6b.3c9 S6d.3c9 X S62.71 S63.63 S63.64 S63.2215.6b.67 X S64.62 S67.79 S68.61
  S68.70 S69.6e S6b.6b S6b.6d S6b.74 S6c.6d S6c.6e S6c.6f.67 S6c.78 S6d.62 S6d.69.6c S6d.6f.6c
  S70.68 X S70.70.6d S70.72 S73.72 S73.76 S77.62 S76.2215.6d S61.2215.6d S31.65e5 S32.65e5
  S33.65e5 S34.65e5 S35.65e5 S36.65e5 S37.65e5 S38.65e5 S39.65e5 S31.30.65e5 S31.31.65e5
  S31.32.65e5 S31.33.65e5 S31.34.65e5 S31.35.65e5 S31.36.65e5 S31.37.65e5 S31.38.65e5 S31.39.65e5
  S32.30.65e5 S32.31.65e5 S32.32.65e5 S32.33.65e5 S32.34.65e5 S32.35.65e5 S32.36.65e5 S32.37.65e5
  S32.38.65e5 S32.39.65e5 S33.30.65e5 S33.31.65e5 S67.61.6c 708dV 3X 37V 9X 15cV 14X 2eP 12V 1cP
  M44a M44c 5aV 8X 22V eP 2V 3eP Ma76f 8V 4P M1d79 aP 3V 2P M265 2V 4P 2V 14P M266 M25c M261 M26c
  M26a V M29e M287 M29d Mab53 10P Ma794 M282 M1d8e 4P M264 10P M19b 14X M73 M63 M66 M71 2P V M127
  M153 33V 3X aV 6X 38V 8X 46V 8X cV 6X 74V bX 1eV 3X 4eV X bV 4X 21V X 37V 9X eV 2X aV 2X 67V 18X
  1cV aX 6V 2X 6V 2X 6V 9X 7V X 7V X 2cV Ma727 Mab37 M26b Mab52 9V M28d 2V 4X 50M13a0 2eV 2X aV 6X
  2ba4V cX 17V 4X 31V 2104X M8c48 M66f4 M8eca M8cc8 M6ed1 M4e32 M53e5 2S9f9c M5951 M91d1 M5587
  M5948 M61f6 M7669 M7f85 M863f M87ba M88f8 M908f M6a02 M6d1b M70d9 M73de M843d M916a M99f1 M4e82
  M5375 M6b04 M721b M862d M9e1e M5d50 M6feb M85cd M8964 M62c9 M81d8 M881f M5eca M6717 M6d6a M72fc
  M90ce M4f86 M51b7 M52de M64c4 M6ad3 M7210 M76e7 M8001 M8606 M865c M8def M9732 M9b6f M9dfa M788c
  M797f M7da0 M83c9 M9304 M9e7f M8ad6 M58df M5f04 M7c60 M807e M7262 M78ca M8cc2 M96f7 M58d8 M5c62
  M6a13 M6dda M6f0f M7d2f M7e37 M964b M52d2 M808b M51dc M51cc M7a1c M7dbe M83f1 M9675 M8b80 M62cf
  M6a02 M8afe M4e39 M5be7 M6012 M7387 M7570 M5317 M78fb M4fbf M5fa9 M4e0d M6ccc M6578 M7d22 M53c3
  M585e M7701 M8449 M8aaa M6bba M8fb0 M6c88 M62fe M82e5 M63a0 M7565 M4eae M5169 M51c9 M6881 M7ce7
  M826f M8ad2 M91cf M52f5 M5442 M5973 M5eec M65c5 M6ffe M792a M95ad M9a6a M9e97 M9ece M529b M66c6
  M6b77 M8f62 M5e74 M6190 M6200 M649a M6f23 M7149 M7489 M79ca M7df4 M806f M8f26 M84ee M9023 M934a
  M5217 M52a3 M54bd M70c8 M88c2 M8aaa M5ec9 M5ff5 M637b M6bae M7c3e M7375 M4ee4 M56f9 M5be7 M5dba
  M601c M73b2 M7469 M7f9a M8046 M9234 M96f6 M9748 M9818 M4f8b M79ae M91b4 M96b8 M60e1 M4e86 M50da
  M5bee M5c3f M6599 M6a02 M71ce M7642 M84fc M907c M9f8d M6688 M962e M5289 M677b M67f3 M6d41 M6e9c
  M7409 M7559 M786b M7d10 M985e M516d M622e M9678 M502b M5d19 M6dea M8f2a M5f8b M6144 M6817 M7387
  M9686 M5229 M540f M5c65 M6613 M674e M68a8 M6ce5 M7406 M75e2 M7f79 M88cf M88e1 M91cc M96e2 M533f
  M6eba M541d M71d0 M7498 M85fa M96a3 M9c57 M9e9f M6797 M6dcb M81e8 M7acb M7b20 M7c92 M72c0 M7099
  M8b58 M4ec0 M8336 M523a M5207 M5ea6 M62d3 M7cd6 M5b85 M6d1e M66b4 M8f3b M884c M964d M898b M5ed3
  M5140 M55c0 2V M585a V M6674 2V M51de M732a M76ca M793c M795e M7965 M798f M9756 M7cbe M7fbd V
  M8612 V M8af8 2V M9038 M90fd 3V M98ef M98fc M9928 M9db4 M90de M96b7 M4fae M50e7 M514d M52c9
  M52e4 M5351 M559d M5606 M5668 M5840 M58a8 M5c64 M5c6e M6094 M6168 M618e M61f2 M654f M65e2 M6691
  M6885 M6d77 M6e1a M6f22 M716e M722b M7422 M7891 M793e M7949 M7948 M7950 M7956 M795d 2M798d M7a40
  M7a81 M7bc0 M7df4 M7e09 M7e41 M7f72 M8005 M81ed 2S8279 M8457 M8910 M8996 M8b01 M8b39 M8cd3 M8d08
  M8fb6 M9038 M96e3 M97ff M983b M6075 M242ee M8218 2X M4e26 M51b5 M5168 M4f80 M5145 M5180 M52c7
  M52fa M559d M5555 M5599 M55e2 M585a M58b3 M5944 M5954 M5a62 M5b28 M5ed2 M5ed9 M5f69 M5fad M60d8
  M614e M6108 M618e M6160 M61f2 M6234 M63c4 M641c M6452 M6556 M6674 M6717 M671b M6756 M6b79 M6bba
  M6d41 M6edb M6ecb M6f22 M701e M716e M77a7 M7235 M72af M732a M7471 M7506 M753b M761d M761f M76ca
  M76db M76f4 M774a M7740 M78cc M7ab1 M7bc0 M7c7b M7d5b M7df4 M7f3e M8005 M8352 M83ef M8779 M8941
  M8986 M8996 M8abf M8af8 M8acb M8b01 M8afe M8aed M8b39 M8b8a M8d08 M8f38 M9072 M9199 M9276 M967c
  M96e3 M9756 M97db M97ff M980b M983b M9b12 M9f9c M2284a M22844 M233d5 M3b9d M4018 M4039 M25249
  M25cd0 M27ed3 M9f43 M9f8e 26X S66.66 S66.69 S66.6c S66.66.69 S66.66.6c 2S73.74 cX S574.576
  S574.565 S574.56b S57e.576 S574.56d 5X S5d9.5b4 V S5f2.5b7 M5e2 M5d0 2M5d3 3M5db M5e8 M5ea M2b
  S5e9.5c1 S5e9.5c2 S5e9.5bc.5c1 S5e9.5bc.5c2 S5d0.5b7 S5d0.5b8 S5d0.5bc S5d1.5bc S5d2.5bc
  S5d3.5bc S5d4.5bc S5d5.5bc S5d6.5bc X S5d8.5bc S5d9.5bc S5da.5bc S5db.5bc S5dc.5bc X S5de.5bc X
  S5e0.5bc S5e1.5bc X S5e3.5bc S5e4.5bc X S5e6.5bc S5e7.5bc S5e8.5bc S5e9.5bc S5ea.5bc S5d5.5b9
  S5d1.5bf S5db.5bf S5e4.5bf S5d0.5dc 2S671 4S67b 4S67e 4S680 4S67a 4S67f 4S679 4S6a4 4S6a6 4S684
  4S683 4S686 4S687 2S68d 2S68c 2S68e 2S688 2S698 2S691 4S6a9 4S6af 4S6b3 4S6b1 2S6ba 4S6bb 2S6c0
  4S6c1 4S6be 2S6d2 2S6d3 21V 4S6ad 2S6c7 2S6c6 2S6c8 S6c7.674 2S6cb 2S6c5 2S6c9 4S6d0 2S649
  2S626.627 2S626.6d5 2S626.648 2S626.6c7 2S626.6c6 2S626.6c8 3S626.6d0 3S626.649 4S6cc S626.62c
  S626.62d S626.645 S626.649 S626.64a S628.62c S628.62d S628.62e S628.645 S628.649 S628.64a
  S62a.62c S62a.62d S62a.62e S62a.645 S62a.649 S62a.64a S62b.62c S62b.645 S62b.649 S62b.64a
  S62c.62d S62c.645 S62d.62c S62d.645 S62e.62c S62e.62d S62e.645 S633.62c S633.62d S633.62e
  S633.645 S635.62d S635.645 S636.62c S636.62d S636.62e S636.645 S637.62d S637.645 S638.645
  S639.62c S639.645 S63a.62c S63a.645 S641.62c S641.62d S641.62e S641.645 S641.649 S641.64a
  S642.62d S642.645 S642.649 S642.64a S643.627 S643.62c S643.62d S643.62e S643.644 S643.645
  S643.649 S643.64a S644.62c S644.62d S644.62e S644.645 S644.649 S644.64a S645.62c S645.62d
  S645.62e S645.645 S645.649 S645.64a S646.62c S646.62d S646.62e S646.645 S646.649 S646.64a
  S647.62c S647.645 S647.649 S647.64a S64a.62c S64a.62d S64a.62e S64a.645 S64a.649 S64a.64a
  S630.670 S631.670 S649.670 S20.64c.651 S20.64d.651 S20.64e.651 S20.64f.651 S20.650.651
  S20.651.670 S626.631 S626.632 S626.645 S626.646 S626.649 S626.64a S628.631 S628.632 S628.645
  S628.646 S628.649 S628.64a S62a.631 S62a.632 S62a.645 S62a.646 S62a.649 S62a.64a S62b.631
  S62b.632 S62b.645 S62b.646 S62b.649 S62b.64a S641.649 S641.64a S642.649 S642.64a S643.627
  S643.644 S643.645 S643.649 S643.64a S644.645 S644.649 S644.64a S645.627 S645.645 S646.631
  S646.632 S646.645 S646.646 S646.649 S646.64a S649.670 S64a.631 S64a.632 S64a.645 S64a.646
  S64a.649 S64a.64a S626.62c S626.62d S626.62e S626.645 S626.647 S628.62c S628.62d S628.62e
  S628.645 S628.647 S62a.62c S62a.62d S62a.62e S62a.645 S62a.647 S62b.645 S62c.62d S62c.645
  S62d.62c S62d.645 S62e.62c S62e.645 S633.62c S633.62d S633.62e S633.645 S635.62d S635.62e
  S635.645 S636.62c S636.62d S636.62e S636.645 S637.62d S638.645 S639.62c S639.645 S63a.62c
  S63a.645 S641.62c S641.62d S641.62e S641.645 S642.62d S642.645 S643.62c S643.62d S643.62e
  S643.644 S643.645 S644.62c S644.62d S644.62e S644.645 S644.647 S645.62c S645.62d S645.62e
  S645.645 S646.62c S646.62d S646.62e S646.645 S646.647 S647.62c S647.645 S647.670 S64a.62c
  S64a.62d S64a.62e S64a.645 S64a.647 S626.645 S626.647 S628.645 S628.647 S62a.645 S62a.647
  S62b.645 S62b.647 S633.645 S633.647 S634.645 S634.647 S643.644 S643.645 S644.645 S646.645
  S646.647 S64a.645 S64a.647 S640.64e.651 S640.64f.651 S640.650.651 S637.649 S637.64a S639.649
  S639.64a S63a.649 S63a.64a S633.649 S633.64a S634.649 S634.64a S62d.649 S62d.64a S62c.649
  S62c.64a S62e.649 S62e.64a S635.649 S635.64a S636.649 S636.64a S634.62c S634.62d S634.62e
  S634.645 S634.631 S633.631 S635.631 S636.631 S637.649 S637.64a S639.649 S639.64a S63a.649
  S63a.64a S633.649 S633.64a S634.649 S634.64a S62d.649 S62d.64a S62c.649 S62c.64a S62e.649
  S62e.64a S635.649 S635.64a S636.649 S636.64a S634.62c S634.62d S634.62e S634.645 S634.631
  S633.631 S635.631 S636.631 S634.62c S634.62d S634.62e S634.645 S633.647 S634.647 S637.645
  S633.62c S633.62d S633.62e S634.62c S634.62d S634.62e S637.645 S638.645 2S627.64b 12V
  S62a.62c.645 2S62a.62d.62c S62a.62d.645 S62a.62e.645 S62a.645.62c S62a.645.62d S62a.645.62e
  2S62c.645.62d S62d.645.64a S62d.645.649 S633.62d.62c S633.62c.62d S633.62c.649 2S633.645.62d
  S633.645.62c 2S633.645.645 2S635.62d.62d S635.645.645 2S634.62d.645 S634.62c.64a 2S634.645.62e
  2S634.645.645 S636.62d.649 2S636.62e.645 2S637.645.62d S637.645.645 S637.645.64a S639.62c.645
  2S639.645.645 S639.645.649 S63a.645.645 S63a.645.64a S63a.645.649 2S641.62e.645 S642.645.62d
  S642.645.645 S644.62d.645 S644.62d.64a S644.62d.649 2S644.62c.62c 2S644.62e.645 2S644.645.62d
  S645.62d.62c S645.62d.645 S645.62d.64a S645.62c.62d S645.62c.645 S645.62e.62c S645.62e.645 2V
  S645.62c.62e S647.645.62c S647.645.645 S646.62d.645 S646.62d.649 2S646.62c.645 S646.62c.649
  S646.645.64a S646.645.649 2S64a.645.645 S628.62e.64a S62a.62c.64a S62a.62c.649 S62a.62e.64a
  S62a.62e.649 S62a.645.64a S62a.645.649 S62c.645.64a S62c.62d.649 S62c.645.649 S633.62e.649
  S635.62d.64a S634.62d.64a S636.62d.64a S644.62c.64a S644.645.64a S64a.62d.64a S64a.62c.64a
  S64a.645.64a S645.645.64a S642.645.64a S646.62d.64a S642.645.62d S644.62d.645 S639.645.64a
  S643.645.64a S646.62c.62d S645.62e.64a S644.62c.645 S643.645.645 S644.62c.645 S646.62c.62d
  S62c.62d.64a S62d.62c.64a S645.62c.64a S641.645.64a S628.62d.64a S643.645.645 S639.62c.645
  S635.645.645 S633.62e.64a S646.62c.64a 8V 20X S635.644.6d2 S642.644.6d2 S627.644.644.647
  S627.643.628.631 S645.62d.645.62f S635.644.639.645 S631.633.648.644 S639.644.64a.647
  S648.633.644.645 S635.644.649
  S635.644.649.20.627.644.644.647.20.639.644.64a.647.20.648.633.644.645
  S62c.644.20.62c.644.627.644.647 S631.6cc.627.644 3V 10I M2c M3001 X 2M3a M21 M3f 2M3016 7X 10V X
  M2014 M2013 2S5f 2M28 M7b M7d 2M3014 2M3010 2M300a 2M3008 4M300c 2V M5b M5d 4S20.305 3S5f M2c
  M3001 2X M3b M3a M3f M21 M2014 2M28 M7b M7d 2M3014 M23 M26 2M2a M2d M3c M3e M3d X M5c 2M24 M40
  4X S20.64b S640.64b S20.64c V S20.64d X S20.64e S640.64e S20.64f S640.64f S20.650 S640.650
  S20.651 S640.651 S20.652 S640.652 2M621 2M622 2M623 2M624 2M625 3S626 2S627 4S628 2S629 4S62a
  4S62b 4S62c 4S62d 4S62e 2S62f 2S630 2S631 2S632 4S633 4S634 4S635 4S636 4S637 4S638 4S639 4S63a
  4S641 4S642 4S643 4S644 4S645 4S646 4S647 2S648 2S649 4S64a 2S644.622 2S644.623 2S644.625
  2S644.627 2X I X 20M21 1aM61 24M5b 2M2985 M2e 2M300c M3001 M30fb M30f2 M30a1 M30a3 M30a5 M30a7
  M30a9 M30e3 M30e5 M30e7 M30c3 M30fc M30a2 M30a4 M30a6 M30a8 2M30aa M30ad M30af M30b1 M30b3 M30b5
  M30b7 M30b9 M30bb M30bd M30bf M30c1 M30c4 M30c6 M30c8 6M30ca M30d2 M30d5 M30d8 M30db 5M30de
  M30e4 M30e6 6M30e8 M30ef M30f3 2M3099 I 2M1100 M11aa M1102 2M11ac 3M1103 6M11b0 M111a 3M1106
  M1121 aM1109 3X 6M1161 2X 6M1167 2X 6M116d 2X 3M1173 3X 2Ma2 Mac S20.304 Ma6 Ma5 M20a9 X M2502
  4M2190 M25a0 M25cb 11X cV X 1aV X 13V X 2V X fV 2X eV 22X 7bV 5X 3V 4X 2dV 3X 58V X dV 3X V 2fX
  2eV 82X 1dV 3X 31V fX 1cV 4X 24V 9X 1eV 5X 2bV 5X 1eV X 25V 4X eV 2aX 28M10428 76V 2X aV 6X
  24M104d8 4X 24V 4X 28V 8X 34V bX V bM10597 X fM105a3 X 7M105b3 X 2M105bb X bV X fV X 7V X 2V 3X
  34V cX 137V 9X 16V aX 8V 18X V 2M2d0 Me6 M299 M253 X M2a3 Mab66 M2a5 M2a4 2M256 M1d91 M258 M25e
  M2a9 M264 M262 M260 M29b M127 M29c M267 M284 2M2aa M26c M1df04 Ma78e M26e M1df05 M28e M1df06 Mf8
  2M276 M71 M27a M1df08 2M27d M280 M2a8 M2a6 Mab67 M2a7 M288 M2c71 X M28f 2M2a1 M298 3M1c0 M1df0a
  M1df1e 45X 6V 2X V X 2cV X 2V 3X V 2X 17V X 48V 8X 9V 30X 13V X 2V 5X 21V 3X 1bV 5X 1bV 26X 38V
  4X 14V 2X 32V X 2V 5X 8V X 3V X 1dV 2X 3V 4X aV 7X 9V 7X 40V 20X 27V 4X cV 9X 36V 3X 1dV 2X 1bV
  5X 1aV 7X 4V cX 7V 50X 49V 37X 33M10cc0 dX 33V 7X 2eV 8X aV 6X 10V 16M10d70 3X 1dV 8X 2V d0X 1fV
  X 2aV X 3V 2X 2V 10X 6V 8X 9V 21X 2eV 8X 2aV 16X 1aV 26X 1cV 14X 17V 9X 4eV 4X 24V 9X 3eV X 5V
  dX 19V 7X aV 6X 35V X 12V 8X 27V 9X 60V X 14V bX 12V X 2fV 3eX 7V X V X 4V X fV X bV 6X 3bV 5X
  aV 6X 4V X 8V 2X 2V 2X 16V X 7V X 2V X 5V X aV 2X 2V 2X 3V 2X V 6X V 5X 7V 2X 7V 3X 5V bX aV X V
  2X V X 26V X aV X V 2X V X 4V X aV X 2V 8X 2V 1dX 5cV X 5V 1eX 48V 8X aV a6X 36V 2X 26V 22X 45V
  bX aV 6X dV 13X 3aV 6X aV 6X 14V 1cX 1bV 2X fV 4X 17V b9X 3cV 64X 20M118c0 33V cX 8V 2X V 2X 8V
  X 2V X 1eV X 2V 2X cV 9X aV 46X 8V 2X 2eV 2X bV 1bX 48V 8X 53V dX 49V 7X aV 56X 8V 58X 22V eX aV
  6X 9V X 2dV X eV aX 1dV 3X 20V 2X 16V X eV 49X 7V X 2V X 2cV 3X V X 2V X 9V 8X aV 6X 6V X 2V X
  25V X 2V X 6V 7X aV 6X 2cV 4X aV f6X 19V 7X 11V X 29V 3X 1dV 55X V fX 32V dX 39bV 66X 6fV X 5V
  bX c4V a4cX 63V dX 430V 10X 16V aX f9bV 5X 247V 1ab9X 3aV 6c6X 239V 7X 1fV X aV 4X 51V X aV 6X
  1eV 2X 6V aX 46V aX aV X 7V X 15V 5X 13V 1b0X 3aV c6X 20M16e60 3bV 5X 19M16ebb 2X 19V 2cX 4bV 4X
  39V 7X 11V 40X 5V bX 7V 9X 1cd6V 29X 20V 61X 73V 21fdX 4V X 7V X 2V X 123V fX V 1dX 3V 2X V eX
  4V 8X 18cV 904X 6bV 5X dV 3X 9V 7X aV 2X 4V 4I f5cX d6V 1aM61 aM30 3V 3X 1b4V 6X 17V fX 11V fX
  2eV 2X 17V 9X 74V 3cX f6V aX 27V 2X 35V S1d157.1d165 S1d158.1d165 S1d158.1d165.1d16e
  S1d158.1d165.1d16f S1d158.1d165.1d170 S1d158.1d165.1d171 S1d158.1d165.1d172 eV 8I 40V
  S1d1b9.1d165 S1d1ba.1d165 S1d1b9.1d165.1d16e S1d1ba.1d165.1d16e S1d1b9.1d165.1d16f
  S1d1ba.1d165.1d16f 2aV 15X 46V 7aX 14V cX 14V cX 57V 9X 19V 87X 1aM61 1aM61 1aM61 7M61 X 12M69
  1aM61 1aM61 M61 X 2M63 2X M67 2X 2M6a 2X 4M6e X 8M73 4M61 X M66 X 7M68 X bM70 1aM61 1aM61 2M61 X
  4M64 2X 8M6a X 7M73 X 1aM61 2M61 X 4M64 X 5M69 X M6f 3X 7M73 X 1aM61 1aM61 1aM61 1aM61 1aM61
  1aM61 1aM61 1aM61 1aM61 1aM61 1aM61 1aM61 1aM61 M131 M237 2X 11M3b1 M3b8 7M3c3 M2207 11M3b1
  2S3c3 6M3c4 M2202 M3b5 M3b8 M3ba M3c6 M3c1 M3c0 11M3b1 M3b8 7M3c3 M2207 11M3b1 2S3c3 6M3c4 M2202
  M3b5 M3b8 M3ba M3c6 M3c1 M3c0 11M3b1 M3b8 7M3c3 M2207 11M3b1 2S3c3 6M3c4 M2202 M3b5 M3b8 M3ba
  M3c6 M3c1 M3c0 11M3b1 M3b8 7M3c3 M2207 11M3b1 2S3c3 6M3c4 M2202 M3b5 M3b8 M3ba M3c6 M3c1 M3c0
  11M3b1 M3b8 7M3c3 M2207 11M3b1 2S3c3 6M3c4 M2202 M3b5 M3b8 M3ba M3c6 M3c1 M3c0 2S3dd 2X aM30
  aM30 aM30 aM30 aM30 28cV fX 5V X fV 450X 1fV 6X 6V d5X 7V X 11V 2X 7V X 2V X 5V 5X 9M430 3M43a
  bM43e M44b 2M44d Ma689 M4d9 M456 M458 M4e9 M4af M4cf 9M430 2M43a 2M43e M441 6M443 2M44a M491
  M456 M455 M45f M4ab Ma651 M4b1 21X V 70X 2dV 3X eV 2X aV 4X 2V 140X 1fV 11X 3aV 5X V 1d0X 2aV
  d6X 2bV 4X V c0X 1fV X 16V 8X 2V e0X 7V X 4V X 2V X fV X c5V 2X 10V 29X 22M1e922 2aV 4X aV 4X 2V
  311X 44V 4cX 3dV c2X 2M627 M62c M62f X M648 M632 M62d M637 M64a 4M643 M633 M639 M641 M635 M642
  M631 M634 2M62a M62e M630 M636 M638 M63a M66e M6ba M6a1 M66f X M628 M62c X M647 2X M62d X M64a
  4M643 M633 M639 M641 M635 M642 X M634 2M62a M62e X M636 X M63a 6X M62c 4X M62d X M64a X M644 X
  M646 M633 M639 X M635 M642 X M634 2X M62e X M636 X M63a X M6ba X M66f X M628 M62c X M647 2X M62d
  M637 M64a M643 X 2M645 M633 M639 M641 M635 M642 X M634 2M62a M62e X M636 M638 M63a M66e X M6a1 X
  2M627 M62c M62f 2M647 M632 M62d M637 M64a X 3M644 M633 M639 M641 M635 M642 M631 M634 2M62a M62e
  M630 M636 M638 M63a 5X M628 M62c M62f X M648 M632 M62d M637 M64a X 3M644 M633 M639 M641 M635
  M642 M631 M634 2M62a M62e M630 M636 M638 M63a 34X 2V 10eX 2cV 4X 64V cX fV 2X fV X fV X 25V bX
  S30.2c S31.2c S32.2c S33.2c S34.2c S35.2c S36.2c S37.2c S38.2c S39.2c 5V S28.61.29 S28.62.29
  S28.63.29 S28.64.29 S28.65.29 S28.66.29 S28.67.29 S28.68.29 S28.69.29 S28.6a.29 S28.6b.29
  S28.6c.29 S28.6d.29 S28.6e.29 S28.6f.29 S28.70.29 S28.71.29 S28.72.29 S28.73.29 S28.74.29
  S28.75.29 S28.76.29 S28.77.29 S28.78.29 S28.79.29 S28.7a.29 S3014.73.3015 M63 M72 S63.64 S77.7a
  V 1aM61 S68.76 S6d.76 S73.64 S73.73 S70.70.76 S77.63 1aV S6d.63 S6d.64 S6d.72 23V S64.6a 1dV 38X
  1aV S307b.304b S30b3.30b3 M30b5 dX M624b M5b57 M53cc M30c7 M4e8c M591a M89e3 M5929 M4ea4 M6620
  M7121 M6599 M524d M5f8c M518d M65b0 M521d M7d42 M751f M8ca9 M58f0 M5439 M6f14 M6295 M6355 M4e00
  M4e09 M904a M5de6 M4e2d M53f3 M6307 M8d70 M6253 M7981 M7a7a M5408 M6e80 M6709 M6708 M7533 M5272
  M55b6 M914d 4X S3014.672c.3015 S3014.4e09.3015 S3014.4e8c.3015 S3014.5b89.3015 S3014.70b9.3015
  S3014.6253.3015 S3014.76d7.3015 S3014.52dd.3015 S3014.6557.3015 7X M5f97 M53ef eX 6V 9aX 3d9V 3X
  11V 3X dV 3X daV 6X cV 4X V fX cV 4X 38V 8X aV 6X 28V 8X 1eV 2X cV 4X 2V eX 9V 27X 158V 8X eV 2X
  dV 3X bV 3X 39V X V 4X 10V 2X cV 4X aV 7X 93V X 5cV aM30 V 405X a6e0V 20X 111eV 2X 168eV 2X
  1d31V fX 26eV 9a2X M4e3d M4e38 M4e41 M20122 M4f60 M4fae M4fbb M5002 M507a M5099 M50e7 M50cf
  M349e M2063a M514d M5154 M5164 M5177 M2051c M34b9 M5167 M518d M2054b M5197 M51a4 M4ecc M51ac
  M51b5 M291df M51f5 M5203 M34df M523b M5246 M5272 M5277 M3515 M52c7 M52c9 M52e4 M52fa 2M5305
  M5317 M5349 M5351 M535a M5373 M537d 3S537f M20a2c M7070 M53ca M53df M20b63 M53eb M53f1 M5406
  M549e M5438 M5448 M5468 M54a2 M54f6 M5510 M5553 M5563 2S5584 M5599 M55ab M55b3 M55c2 M5716 M5606
  M5717 M5651 M5674 M5207 M58ee M57ce M57f4 M580d M578b M5832 M5831 M58ac M214e4 M58f2 M58f7 M5906
  M591a M5922 M5962 M216a8 M216ea M59ec M5a1b M5a27 M59d8 M5a66 M36ee M36fc M5b08 2S5b3e M219c8
  M5bc3 M5bd8 M5be7 M5bf3 M21b18 M5bff M5c06 M5f53 M5c22 M3781 M5c60 M5c6e M5cc0 M5c8d M21de4
  M5d43 M21de6 M5d6e M5d6b M5d7c 2M5de1 M382f M5dfd M5e28 M5e3d M5e69 M3862 M22183 M387c M5eb0
  M5eb3 M5eb6 M5eca M2a392 M5efe 2S22331 M8201 2S5f22 M38c7 M232b8 M261da M5f62 M5f6b M38e3 M5f9a
  M5fcd M5fd7 M5ff9 M6081 M393a M391c M6094 M226d4 M60c7 M6148 M614c M614e M614c M617a M618e M61b2
  M61a4 M61af M61de M61f2 M61f6 M6210 M621b M625d M62b1 M62d4 M6350 M22b0c M633d M62fc M6368 M6383
  M63e4 M22bf1 M6422 M63c5 M63a9 M3a2e M6469 M647e M649d M6477 M3a6c M654f M656c M2300a M65e3
  M66f8 M6649 M3b19 M6691 M3b08 M3ae4 M5192 M5195 M6700 M669c M80ad M43d9 M6717 M671b M6721 M675e
  M6753 M233c3 M3b49 M67fa M6785 M6852 M6885 M2346d M688e M681f M6914 M3b9d M6942 M69a3 M69ea
  M6aa8 M236a3 M6adb M3c18 M6b21 M238a7 M6b54 M3c4e M6b72 M6b9f 2M6bba M23a8d M21d0b M23afa M6c4e
  M23cbc M6cbf M6ccd M6c67 M6d16 M6d3e M6d77 M6d41 M6d69 M6d78 M6d85 M23d1e M6d34 M6e2f M6e6e
  M3d33 M6ecb M6ec7 M23ed1 M6df9 M6f6e M23f5e M23f8e M6fc6 M7039 M701e M701b M3d96 M704a M707d
  M7077 M70ad M20525 M7145 M24263 M719c M243ab M7228 M7235 M7250 M24608 M7280 M7295 M24735 M24814
  M737a M738b M3eac M73a5 2S3eb8 M7447 M745c M7471 M7485 M74ca M3f1b M7524 M24c36 M753e M24c92
  M7570 M2219f M7610 M24fa1 M24fb8 M25044 M3ffc M4008 M76f4 M250f3 M250f2 M25119 M25133 2M771e
  M771f M774a M4039 M778b M4046 M4096 M2541d M784e M788c M78cc M40e3 M25626 M7956 M2569a M256c5
  M798f M79eb M412f M7a40 M7a4a M7a4f M2597c 2S25aa7 M7aee M4202 M25bab M7bc6 M7bc9 M4227 M25c80
  M7cd2 M42a0 M7ce8 M7ce3 M7d00 M25f86 M7d63 M4301 M7dc7 M7e02 M7e45 M4334 M26228 M26247 M4359
  M262d9 M7f7a M2633e M7f95 M7ffa M8005 M264da M26523 M8060 M265a8 M8070 M2335f M43d5 M80b2 M8103
  M440b M813e M5ab5 M267a7 M267b5 M23393 M2339c M8201 M8204 M8f9e M446b M8291 M828b M829d M52b3
  M82b1 M82b3 M82bd M82e6 M26b3c M82e5 M831d M8363 M83ad M8323 M83bd M83e7 M8457 M8353 M83ca M83cc
  M83dc M26c36 M26d6b M26cd5 M452b M84f1 M84f3 M8516 M273ca M8564 M26f2c M455d M4561 M26fb1 M270d2
  M456b M8650 M865c M8667 M8669 M86a9 M8688 M870e M86e2 M8779 M8728 M876b M8786 M45d7 M87e1 M8801
  M45f9 M8860 M8863 M27667 M88d7 M88de M4635 M88fa M34bb M278ae M27966 M46be M46c7 M8aa0 M8aed
  M8b8a M8c55 M27ca8 M8cab M8cc1 M8d1b M8d77 M27f2f M20804 M8dcb M8dbc M8df0 M208de M8ed4 M8f38
  M285d2 M285ed M9094 M90f1 M9111 M2872e M911b M9238 2M92d7 M927c M93f9 M9415 M28bfa M958b M4995
  M95b7 M28d77 M49e6 M96c3 M5db2 M9723 M29145 M2921a M4a6e M4a76 M97e0 M2940a M4ab2 M29496 2S980b
  M9829 M295b6 M98e2 M4b33 M9929 M99a7 M99c2 M99fe M4bce M29b30 M9b12 M9c40 M9cfd M4cce M4ced
  M9d67 M2a0ce M4cf8 M2a105 M2a20e M2a291 M9ebb M4d56 M9ef9 M9efe M9f05 M9f0f M9f16 M9f3b M2a600
  5e2X 134bV 5X 212aV acc86X f0I"

/-- Characters of ASCII that may not stand in a domain name, beside controls. -/
def hostBreaks : List Char :=
  [Char.ofNat 0, '\t', '\n', '\r', ' ', '#', '/', ':', '<', '>', '?', '@', '[', '\\', ']', '^', '|']

/-- A character that may not stand in a domain name. -/
def isForbiddenInDomain (c : Char) : Bool := isControl c || c == '%' || hostBreaks.contains c

/-- What a run makes of the character at a place in it. -/
def mapped? (c : Char) (run : Run) (place : Nat) : Option Text :=
  match run.property, run.numbers with
  | 'V', _ => some [c]
  | 'I', _ => some []
  | 'M', n :: _ => some [Char.ofNat (n + place)]
  | 'S', ns => some (ns.map Char.ofNat)
  | 'P', _ => some [if place % 2 = 0 then Char.ofNat (c.toNat + 1) else c]
  | _, _ => none

/-- The text that a character stands for. -/
def domainText? (c : Char) : Option Text :=
  if c.toNat < 0x80 then some [c.toLower]
  else (mapping.find? c).bind fun found => mapped? c found.1 found.2

/-- The characters of a name as it is meant, if all of them can be used. Those that cannot are looked
for once more at the end, since some arise only there. -/
def domainChars? (s : Text) : Option Text :=
  match s.mapM domainText? with
  | none => none
  | some texts =>
    let name := composed texts.flatten
    if name.any isForbiddenInDomain then none else some name

end ScriptRunner.Url
