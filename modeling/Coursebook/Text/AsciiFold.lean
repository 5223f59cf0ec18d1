import Coursebook.Text.CodeSet

/-!
# Coursebook — folding to ASCII

What is left of a text when every character is replaced by its compatibility decomposition of
Unicode 14 and everything outside ASCII is dropped: `é` gives `e`, a ligature its letters, and a
letter without such a decomposition nothing.
-/

namespace Coursebook.Text

/-- The characters with something left, as words: `c0-c5:41` gives every code point of the range the
text with these ASCII codes, `b2-b3+32` gives the first the one code and the others those after it. -/
def asciiFoldRuns : List ((Nat × Nat) × Bool × List Char) :=
  (words
   "a0:20 a8:20 aa:61 af:20 b2-b3+32 b4:20 b8:20 b9:31 ba:6f bc:3134 bd:3132 be:3334 c0-c5:41
   c7:43 c8-cb:45 cc-cf:49 d1-d2+4e d3-d6:4f d9-dc:55 dd:59 e0-e5:61 e7:63 e8-eb:65 ec-ef:69
   f1-f2+6e f3-f6:6f f9-fc:75 fd:79 ff:79 100:41 101:61 102:41 103:61 104:41 105:61 106:43
   107:63 108:43 109:63 10a:43 10b:63 10c:43 10d:63 10e:44 10f:64 112:45 113:65 114:45 115:65
   116:45 117:65 118:45 119:65 11a:45 11b:65 11c:47 11d:67 11e:47 11f:67 120:47 121:67 122:47
   123:67 124:48 125:68 128:49 129:69 12a:49 12b:69 12c:49 12d:69 12e:49 12f:69 130:49 132:494a
   133:696a 134:4a 135:6a 136:4b 137:6b 139:4c 13a:6c 13b:4c 13c:6c 13d:4c 13e:6c 13f:4c 140:6c
   143:4e 144:6e 145:4e 146:6e 147:4e 148-149:6e 14c:4f 14d:6f 14e:4f 14f:6f 150:4f 151:6f
   154:52 155:72 156:52 157:72 158:52 159:72 15a:53 15b:73 15c:53 15d:73 15e:53 15f:73 160:53
   161:73 162:54 163:74 164:54 165:74 168:55 169:75 16a:55 16b:75 16c:55 16d:75 16e:55 16f:75
   170:55 171:75 172:55 173:75 174:57 175:77 176:59 177:79 178-179+59 17a:7a 17b:5a 17c:7a
   17d:5a 17e:7a 17f:73 1a0:4f 1a1:6f 1af:55 1b0:75 1c4:445a 1c5:447a 1c6:647a 1c7:4c4a
   1c8:4c6a 1c9:6c6a 1ca:4e4a 1cb:4e6a 1cc:6e6a 1cd:41 1ce:61 1cf:49 1d0:69 1d1:4f 1d2:6f
   1d3:55 1d4:75 1d5:55 1d6:75 1d7:55 1d8:75 1d9:55 1da:75 1db:55 1dc:75 1de:41 1df:61 1e0:41
   1e1:61 1e6:47 1e7:67 1e8:4b 1e9:6b 1ea:4f 1eb:6f 1ec:4f 1ed:6f 1f0:6a 1f1:445a 1f2:447a
   1f3:647a 1f4:47 1f5:67 1f8:4e 1f9:6e 1fa:41 1fb:61 200:41 201:61 202:41 203:61 204:45 205:65
   206:45 207:65 208:49 209:69 20a:49 20b:69 20c:4f 20d:6f 20e:4f 20f:6f 210:52 211:72 212:52
   213:72 214:55 215:75 216:55 217:75 218:53 219:73 21a:54 21b:74 21e:48 21f:68 226:41 227:61
   228:45 229:65 22a:4f 22b:6f 22c:4f 22d:6f 22e:4f 22f:6f 230:4f 231:6f 232:59 233:79 2b0:68
   2b2:6a 2b3:72 2b7:77 2b8:79 2d8-2dd:20 2e1:6c 2e2:73 2e3:78 37a:20 37e:3b 384-385:20 1d2c:41
   1d2e:42 1d30-1d31+44 1d33-1d3a+47 1d3c:4f 1d3e:50 1d3f:52 1d40-1d41+54 1d42:57 1d43:61
   1d47:62 1d48-1d49+64 1d4d:67 1d4f:6b 1d50:6d 1d52:6f 1d56:70 1d57-1d58+74 1d5b:76 1d62:69
   1d63:72 1d64-1d65+75 1d9c:63 1da0:66 1dbb:7a 1e00:41 1e01:61 1e02:42 1e03:62 1e04:42 1e05:62
   1e06:42 1e07:62 1e08:43 1e09:63 1e0a:44 1e0b:64 1e0c:44 1e0d:64 1e0e:44 1e0f:64 1e10:44
   1e11:64 1e12:44 1e13:64 1e14:45 1e15:65 1e16:45 1e17:65 1e18:45 1e19:65 1e1a:45 1e1b:65
   1e1c:45 1e1d:65 1e1e:46 1e1f:66 1e20:47 1e21:67 1e22:48 1e23:68 1e24:48 1e25:68 1e26:48
   1e27:68 1e28:48 1e29:68 1e2a:48 1e2b:68 1e2c:49 1e2d:69 1e2e:49 1e2f:69 1e30:4b 1e31:6b
   1e32:4b 1e33:6b 1e34:4b 1e35:6b 1e36:4c 1e37:6c 1e38:4c 1e39:6c 1e3a:4c 1e3b:6c 1e3c:4c
   1e3d:6c 1e3e:4d 1e3f:6d 1e40:4d 1e41:6d 1e42:4d 1e43:6d 1e44:4e 1e45:6e 1e46:4e 1e47:6e
   1e48:4e 1e49:6e 1e4a:4e 1e4b:6e 1e4c:4f 1e4d:6f 1e4e:4f 1e4f:6f 1e50:4f 1e51:6f 1e52:4f
   1e53:6f 1e54:50 1e55:70 1e56:50 1e57:70 1e58:52 1e59:72 1e5a:52 1e5b:72 1e5c:52 1e5d:72
   1e5e:52 1e5f:72 1e60:53 1e61:73 1e62:53 1e63:73 1e64:53 1e65:73 1e66:53 1e67:73 1e68:53
   1e69:73 1e6a:54 1e6b:74 1e6c:54 1e6d:74 1e6e:54 1e6f:74 1e70:54 1e71:74 1e72:55 1e73:75
   1e74:55 1e75:75 1e76:55 1e77:75 1e78:55 1e79:75 1e7a:55 1e7b:75 1e7c:56 1e7d:76 1e7e:56
   1e7f:76 1e80:57 1e81:77 1e82:57 1e83:77 1e84:57 1e85:77 1e86:57 1e87:77 1e88:57 1e89:77
   1e8a:58 1e8b:78 1e8c:58 1e8d:78 1e8e:59 1e8f:79 1e90:5a 1e91:7a 1e92:5a 1e93:7a 1e94:5a
   1e95:7a 1e96:68 1e97:74 1e98:77 1e99:79 1e9a:61 1e9b:73 1ea0:41 1ea1:61 1ea2:41 1ea3:61
   1ea4:41 1ea5:61 1ea6:41 1ea7:61 1ea8:41 1ea9:61 1eaa:41 1eab:61 1eac:41 1ead:61 1eae:41
   1eaf:61 1eb0:41 1eb1:61 1eb2:41 1eb3:61 1eb4:41 1eb5:61 1eb6:41 1eb7:61 1eb8:45 1eb9:65
   1eba:45 1ebb:65 1ebc:45 1ebd:65 1ebe:45 1ebf:65 1ec0:45 1ec1:65 1ec2:45 1ec3:65 1ec4:45
   1ec5:65 1ec6:45 1ec7:65 1ec8:49 1ec9:69 1eca:49 1ecb:69 1ecc:4f 1ecd:6f 1ece:4f 1ecf:6f
   1ed0:4f 1ed1:6f 1ed2:4f 1ed3:6f 1ed4:4f 1ed5:6f 1ed6:4f 1ed7:6f 1ed8:4f 1ed9:6f 1eda:4f
   1edb:6f 1edc:4f 1edd:6f 1ede:4f 1edf:6f 1ee0:4f 1ee1:6f 1ee2:4f 1ee3:6f 1ee4:55 1ee5:75
   1ee6:55 1ee7:75 1ee8:55 1ee9:75 1eea:55 1eeb:75 1eec:55 1eed:75 1eee:55 1eef:75 1ef0:55
   1ef1:75 1ef2:59 1ef3:79 1ef4:59 1ef5:79 1ef6:59 1ef7:79 1ef8:59 1ef9:79 1fbd:20 1fbf-1fc1:20
   1fcd-1fcf:20 1fdd-1fdf:20 1fed-1fee:20 1fef:60 1ffd-1ffe:20 2000-200a:20 2017:20 2024:2e
   2025:2e2e 2026:2e2e2e 202f:20 203c:2121 203e:20 2047:3f3f 2048:3f21 2049:213f 205f:20
   2070:30 2071:69 2074-2079+34 207a:2b 207c:3d 207d-207e+28 207f:6e 2080-2089+30 208a:2b
   208c:3d 208d-208e+28 2090:61 2091:65 2092:6f 2093:78 2095:68 2096-2099+6b 209a:70
   209b-209c+73 20a8:5273 2100:612f63 2101:612f73 2102-2103:43 2105:632f6f 2106:632f75 2109:46
   210a:67 210b-210d:48 210e:68 2110-2111:49 2112:4c 2113:6c 2115:4e 2116:4e6f 2119-211b+50
   211c-211d:52 2120:534d 2121:54454c 2122:544d 2124:5a 2128:5a 212a:4b 212b-212d+41 212f:65
   2130-2131+45 2133:4d 2134:6f 2139:69 213b:464158 2145:44 2146-2147+64 2148-2149+69 2150:3137
   2151:3139 2152:313130 2153:3133 2154:3233 2155:3135 2156:3235 2157:3335 2158:3435 2159:3136
   215a:3536 215b:3138 215c:3338 215d:3538 215e:3738 215f:31 2160:49 2161:4949 2162:494949
   2163:4956 2164:56 2165:5649 2166:564949 2167:56494949 2168:4958 2169:58 216a:5849
   216b:584949 216c:4c 216d-216e+43 216f:4d 2170:69 2171:6969 2172:696969 2173:6976 2174:76
   2175:7669 2176:766969 2177:76696969 2178:6978 2179:78 217a:7869 217b:786969 217c:6c
   217d-217e+63 217f:6d 2189:3033 2260:3d 226e:3c 226f:3e 2460-2468+31 2469:3130 246a:3131
   246b:3132 246c:3133 246d:3134 246e:3135 246f:3136 2470:3137 2471:3138 2472:3139 2473:3230
   2474:283129 2475:283229 2476:283329 2477:283429 2478:283529 2479:283629 247a:283729
   247b:283829 247c:283929 247d:28313029 247e:28313129 247f:28313229 2480:28313329
   2481:28313429 2482:28313529 2483:28313629 2484:28313729 2485:28313829 2486:28313929
   2487:28323029 2488:312e 2489:322e 248a:332e 248b:342e 248c:352e 248d:362e 248e:372e
   248f:382e 2490:392e 2491:31302e 2492:31312e 2493:31322e 2494:31332e 2495:31342e 2496:31352e
   2497:31362e 2498:31372e 2499:31382e 249a:31392e 249b:32302e 249c:286129 249d:286229
   249e:286329 249f:286429 24a0:286529 24a1:286629 24a2:286729 24a3:286829 24a4:286929
   24a5:286a29 24a6:286b29 24a7:286c29 24a8:286d29 24a9:286e29 24aa:286f29 24ab:287029
   24ac:287129 24ad:287229 24ae:287329 24af:287429 24b0:287529 24b1:287629 24b2:287729
   24b3:287829 24b4:287929 24b5:287a29 24b6-24cf+41 24d0-24e9+61 24ea:30 2a74:3a3a3d 2a75:3d3d
   2a76:3d3d3d 2c7c:6a 2c7d:56 3000:20 309b-309c:20 3200:2829 3201:2829 3202:2829 3203:2829
   3204:2829 3205:2829 3206:2829 3207:2829 3208:2829 3209:2829 320a:2829 320b:2829 320c:2829
   320d:2829 320e:2829 320f:2829 3210:2829 3211:2829 3212:2829 3213:2829 3214:2829 3215:2829
   3216:2829 3217:2829 3218:2829 3219:2829 321a:2829 321b:2829 321c:2829 321d:2829 321e:2829
   3220:2829 3221:2829 3222:2829 3223:2829 3224:2829 3225:2829 3226:2829 3227:2829 3228:2829
   3229:2829 322a:2829 322b:2829 322c:2829 322d:2829 322e:2829 322f:2829 3230:2829 3231:2829
   3232:2829 3233:2829 3234:2829 3235:2829 3236:2829 3237:2829 3238:2829 3239:2829 323a:2829
   323b:2829 323c:2829 323d:2829 323e:2829 323f:2829 3240:2829 3241:2829 3242:2829 3243:2829
   3250:505445 3251:3231 3252:3232 3253:3233 3254:3234 3255:3235 3256:3236 3257:3237 3258:3238
   3259:3239 325a:3330 325b:3331 325c:3332 325d:3333 325e:3334 325f:3335 32b1:3336 32b2:3337
   32b3:3338 32b4:3339 32b5:3430 32b6:3431 32b7:3432 32b8:3433 32b9:3434 32ba:3435 32bb:3436
   32bc:3437 32bd:3438 32be:3439 32bf:3530 32c0-32c8+31 32c9:3130 32ca:3131 32cb:3132 32cc:4867
   32cd:657267 32ce:6556 32cf:4c5444 3358-3361+30 3362:3130 3363:3131 3364:3132 3365:3133
   3366:3134 3367:3135 3368:3136 3369:3137 336a:3138 336b:3139 336c:3230 336d:3231 336e:3232
   336f:3233 3370:3234 3371:685061 3372:6461 3373:4155 3374:626172 3375:6f56 3376:7063
   3377:646d 3378:646d32 3379:646d33 337a:4955 3380:7041 3381:6e41 3382:41 3383:6d41 3384:6b41
   3385:4b42 3386:4d42 3387:4742 3388:63616c 3389:6b63616c 338a:7046 338b:6e46 338c:46 338d:67
   338e:6d67 338f:6b67 3390:487a 3391:6b487a 3392:4d487a 3393:47487a 3394:54487a 3395:6c
   3396:6d6c 3397:646c 3398:6b6c 3399:666d 339a:6e6d 339b:6d 339c:6d6d 339d:636d 339e:6b6d
   339f:6d6d32 33a0:636d32 33a1:6d32 33a2:6b6d32 33a3:6d6d33 33a4:636d33 33a5:6d33 33a6:6b6d33
   33a7:6d73 33a8:6d7332 33a9:5061 33aa:6b5061 33ab:4d5061 33ac:475061 33ad:726164
   33ae:72616473 33af:7261647332 33b0:7073 33b1:6e73 33b2:73 33b3:6d73 33b4:7056 33b5:6e56
   33b6:56 33b7:6d56 33b8:6b56 33b9:4d56 33ba:7057 33bb:6e57 33bc:57 33bd:6d57 33be:6b57
   33bf:4d57 33c0:6b 33c1:4d 33c2:612e6d2e 33c3:4271 33c4:6363 33c5:6364 33c6:436b67
   33c7:436f2e 33c8:6442 33c9:4779 33ca:6861 33cb:4850 33cc:696e 33cd:4b4b 33ce:4b4d 33cf:6b74
   33d0:6c6d 33d1:6c6e 33d2:6c6f67 33d3:6c78 33d4:6d62 33d5:6d696c 33d6:6d6f6c 33d7:5048
   33d8:702e6d2e 33d9:50504d 33da:5052 33db:7372 33dc:5376 33dd:5762 33de:566d 33df:416d
   33e0-33e8+31 33e9:3130 33ea:3131 33eb:3132 33ec:3133 33ed:3134 33ee:3135 33ef:3136 33f0:3137
   33f1:3138 33f2:3139 33f3:3230 33f4:3231 33f5:3232 33f6:3233 33f7:3234 33f8:3235 33f9:3236
   33fa:3237 33fb:3238 33fc:3239 33fd:3330 33fe:3331 33ff:67616c a7f2:43 a7f3:46 a7f4:51
   fb00:6666 fb01:6669 fb02:666c fb03:666669 fb04:66666c fb05:7374 fb06:7374 fb29:2b
   fc5e-fc63:20 fdfa:202020 fdfb:20 fe10:2c fe13-fe14+3a fe15:21 fe16:3f fe19:2e2e2e fe30:2e2e
   fe33-fe34:5f fe35-fe36+28 fe37:7b fe38:7d fe47:5b fe48:5d fe49-fe4c:20 fe4d-fe4f:5f fe50:2c
   fe52:2e fe54:3b fe55:3a fe56:3f fe57:21 fe59-fe5a+28 fe5b:7b fe5c:7d fe5f:23 fe60:26
   fe61-fe62+2a fe63:2d fe64:3c fe65:3e fe66:3d fe68:5c fe69-fe6a+24 fe6b:40 fe70:20 fe72:20
   fe74:20 fe76:20 fe78:20 fe7a:20 fe7c:20 fe7e:20 ff01-ff5e+21 ffe3:20 107a5:71 1d400-1d419+41
   1d41a-1d433+61 1d434-1d44d+41 1d44e-1d454+61 1d456-1d467+69 1d468-1d481+41 1d482-1d49b+61
   1d49c:41 1d49e-1d49f+43 1d4a2:47 1d4a5-1d4a6+4a 1d4a9-1d4ac+4e 1d4ae-1d4b5+53 1d4b6-1d4b9+61
   1d4bb:66 1d4bd-1d4c3+68 1d4c5-1d4cf+70 1d4d0-1d4e9+41 1d4ea-1d503+61 1d504-1d505+41
   1d507-1d50a+44 1d50d-1d514+4a 1d516-1d51c+53 1d51e-1d537+61 1d538-1d539+41 1d53b-1d53e+44
   1d540-1d544+49 1d546:4f 1d54a-1d550+53 1d552-1d56b+61 1d56c-1d585+41 1d586-1d59f+61
   1d5a0-1d5b9+41 1d5ba-1d5d3+61 1d5d4-1d5ed+41 1d5ee-1d607+61 1d608-1d621+41 1d622-1d63b+61
   1d63c-1d655+41 1d656-1d66f+61 1d670-1d689+41 1d68a-1d6a3+61 1d7ce-1d7d7+30 1d7d8-1d7e1+30
   1d7e2-1d7eb+30 1d7ec-1d7f5+30 1d7f6-1d7ff+30 1f100:302e 1f101:302c 1f102:312c 1f103:322c
   1f104:332c 1f105:342c 1f106:352c 1f107:362c 1f108:372c 1f109:382c 1f10a:392c 1f110:284129
   1f111:284229 1f112:284329 1f113:284429 1f114:284529 1f115:284629 1f116:284729 1f117:284829
   1f118:284929 1f119:284a29 1f11a:284b29 1f11b:284c29 1f11c:284d29 1f11d:284e29 1f11e:284f29
   1f11f:285029 1f120:285129 1f121:285229 1f122:285329 1f123:285429 1f124:285529 1f125:285629
   1f126:285729 1f127:285829 1f128:285929 1f129:285a29 1f12a:53 1f12b:43 1f12c:52 1f12d:4344
   1f12e:575a 1f130-1f149+41 1f14a:4856 1f14b:4d56 1f14c:5344 1f14d:5353 1f14e:505056
   1f14f:5743 1f16a:4d43 1f16b:4d44 1f16c:4d52 1f190:444a 1fbf0-1fbf9+30".toList).map fun w =>
    let counted := w.contains '+'
    let (range, text) := cut (if counted then '+' else ':') w
    (rangeWord range, counted, pairs (text.getD []))
where
  /-- The characters that pairs of hexadecimal digits write. -/
  pairs : List Char → List Char
    | a :: b :: r => Char.ofNat (hexNumber [a, b]) :: pairs r
    | _ => []

/-- What is left of one character. -/
def asciiFoldChar (c : Char) : List Char :=
  if c.toNat < 0x80 then [c]
  else match asciiFoldRuns.find? fun ((first, last), _, _) => first ≤ c.toNat && c.toNat ≤ last with
    | some ((first, _), true, text) => text.map fun a => Char.ofNat (a.toNat + (c.toNat - first))
    | some (_, false, text) => text
    | none => []

/-- What is left of a text. -/
def asciiFold (s : List Char) : List Char := s.flatMap asciiFoldChar

end Coursebook.Text
