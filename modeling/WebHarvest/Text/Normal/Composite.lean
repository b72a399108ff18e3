import WebHarvest.Text.CodeTable

/-! Characters that stand for a letter with its marks and are written in place of these. -/

namespace WebHarvest.Text.Normal

/-- Each character with the letter and the marks it is made of. -/
def composites : List (Nat × List Nat) :=
  CodeTable.images "
    c0: 41.300 41.301 41.302 41.303 41.308 41.30a
    c7: 43.327 45.300 45.301 45.302 45.308 49.300 49.301 49.302 49.308
    d1: 4e.303 4f.300 4f.301 4f.302 4f.303 4f.308 d9: 55.300 55.301 55.302 55.308 59.301
    e0: 61.300 61.301 61.302 61.303 61.308 61.30a
    e7: 63.327 65.300 65.301 65.302 65.308 69.300 69.301 69.302 69.308
    f1: 6e.303 6f.300 6f.301 6f.302 6f.303 6f.308 f9: 75.300 75.301 75.302 75.308 79.301
    ff: 79.308 41.304 61.304 41.306 61.306 41.328 61.328 43.301 63.301 43.302 63.302 43.307 63.307
    10c: 43.30c 63.30c 44.30c 64.30c
    112: 45.304 65.304 45.306 65.306 45.307 65.307 45.328 65.328 45.30c 65.30c 47.302 67.302
    11e: 47.306 67.306 47.307 67.307 47.327 67.327 48.302 68.302
    128: 49.303 69.303 49.304 69.304 49.306 69.306 49.328 69.328 49.307
    134: 4a.302 6a.302 4b.327 6b.327 139: 4c.301 6c.301 4c.327 6c.327 4c.30c 6c.30c
    143: 4e.301 6e.301 4e.327 6e.327 4e.30c 6e.30c 14c: 4f.304 6f.304 4f.306 6f.306 4f.30b 6f.30b
    154: 52.301 72.301 52.327 72.327 52.30c 72.30c 53.301 73.301 53.302 73.302 53.327 73.327
    160: 53.30c 73.30c 54.327 74.327 54.30c 74.30c
    168: 55.303 75.303 55.304 75.304 55.306 75.306 55.30a 75.30a 55.30b 75.30b 55.328 75.328
    174: 57.302 77.302 59.302 79.302 59.308 5a.301 7a.301 5a.307 7a.307 5a.30c 7a.30c
    1a0: 4f.31b 6f.31b 1af: 55.31b 75.31b
    1cd: 41.30c 61.30c 49.30c 69.30c 4f.30c 6f.30c 55.30c 75.30c 55.308.304 75.308.304 55.308.301
    1d8: 75.308.301 55.308.30c 75.308.30c 55.308.300 75.308.300
    1de: 41.308.304 61.308.304 41.307.304 61.307.304 c6.304 e6.304
    1e6: 47.30c 67.30c 4b.30c 6b.30c 4f.328 6f.328 4f.328.304 6f.328.304 1b7.30c 292.30c 6a.30c
    1f4: 47.301 67.301
    1f8: 4e.300 6e.300 41.30a.301 61.30a.301 c6.301 e6.301 d8.301 f8.301 41.30f 61.30f 41.311
    203: 61.311 45.30f 65.30f 45.311 65.311 49.30f 69.30f 49.311 69.311 4f.30f 6f.30f 4f.311
    20f: 6f.311 52.30f 72.30f 52.311 72.311 55.30f 75.30f 55.311 75.311 53.326 73.326 54.326
    21b: 74.326 21e: 48.30c 68.30c
    226: 41.307 61.307 45.327 65.327 4f.308.304 6f.308.304 4f.303.304 6f.303.304 4f.307 6f.307
    230: 4f.307.304 6f.307.304 59.304 79.304 385: a8.301 391.301 388: 395.301 397.301 399.301
    38c: 39f.301 38e: 3a5.301 3a9.301 3b9.308.301
    3aa: 399.308 3a5.308 3b1.301 3b5.301 3b7.301 3b9.301 3c5.308.301
    3ca: 3b9.308 3c5.308 3bf.301 3c5.301 3c9.301 3d3: 3d2.301 3d2.308 400: 415.300 415.308
    403: 413.301 407: 406.308 40c: 41a.301 418.300 423.306 419: 418.306 439: 438.306
    450: 435.300 435.308 453: 433.301 457: 456.308 45c: 43a.301 438.300 443.306
    476: 474.30f 475.30f 4c1: 416.306 436.306 4d0: 410.306 430.306 410.308 430.308
    4d6: 415.306 435.306 4da: 4d8.308 4d9.308 416.308 436.308 417.308 437.308
    4e2: 418.304 438.304 418.308 438.308 41e.308 43e.308
    4ea: 4e8.308 4e9.308 42d.308 44d.308 423.304 443.304 423.308 443.308 423.30b 443.30b 427.308
    4f5: 447.308 4f8: 42b.308 44b.308 622: 627.653 627.654 648.654 627.655 64a.654 6c0: 6d5.654
    6c2: 6c1.654 6d3: 6d2.654 929: 928.93c 931: 930.93c 934: 933.93c 9cb: 9c7.9be 9c7.9d7
    b48: b47.b56 b4b: b47.b3e b47.b57 b94: b92.bd7 bca: bc6.bbe bc7.bbe bc6.bd7 c48: c46.c56
    cc0: cbf.cd5 cc7: cc6.cd5 cc6.cd6 cca: cc6.cc2 cc6.cc2.cd5 d4a: d46.d3e d47.d3e d46.d57
    dda: dd9.dca ddc: dd9.dcf dd9.dcf.dca dd9.ddf 1026: 1025.102e 1b06: 1b05.1b35 1b08: 1b07.1b35
    1b0a: 1b09.1b35 1b0c: 1b0b.1b35 1b0e: 1b0d.1b35 1b12: 1b11.1b35 1b3b: 1b3a.1b35
    1b3d: 1b3c.1b35 1b40: 1b3e.1b35 1b3f.1b35 1b43: 1b42.1b35
    1e00: 41.325 61.325 42.307 62.307 42.323 62.323 42.331 62.331 43.327.301 63.327.301 44.307
    1e0b: 64.307 44.323 64.323 44.331 64.331 44.327 64.327 44.32d 64.32d 45.304.300 65.304.300
    1e16: 45.304.301 65.304.301 45.32d 65.32d 45.330 65.330 45.327.306 65.327.306 46.307 66.307
    1e20: 47.304 67.304 48.307 68.307 48.323 68.323 48.308 68.308 48.327 68.327 48.32e 68.32e
    1e2c: 49.330 69.330 49.308.301 69.308.301 4b.301 6b.301 4b.323 6b.323 4b.331 6b.331 4c.323
    1e37: 6c.323 4c.323.304 6c.323.304 4c.331 6c.331 4c.32d 6c.32d 4d.301 6d.301 4d.307 6d.307
    1e42: 4d.323 6d.323 4e.307 6e.307 4e.323 6e.323 4e.331 6e.331 4e.32d 6e.32d 4f.303.301
    1e4d: 6f.303.301 4f.303.308 6f.303.308 4f.304.300 6f.304.300 4f.304.301 6f.304.301 50.301
    1e55: 70.301 50.307 70.307 52.307 72.307 52.323 72.323 52.323.304 72.323.304 52.331 72.331
    1e60: 53.307 73.307 53.323 73.323 53.301.307 73.301.307 53.30c.307 73.30c.307 53.323.307
    1e69: 73.323.307 54.307 74.307 54.323 74.323 54.331 74.331 54.32d 74.32d 55.324 75.324 55.330
    1e75: 75.330 55.32d 75.32d 55.303.301 75.303.301 55.304.308 75.304.308 56.303 76.303 56.323
    1e7f: 76.323 57.300 77.300 57.301 77.301 57.308 77.308 57.307 77.307 57.323 77.323 58.307
    1e8b: 78.307 58.308 78.308 59.307 79.307 5a.302 7a.302 5a.323 7a.323 5a.331 7a.331 68.331
    1e97: 74.308 77.30a 79.30a 1e9b: 17f.307
    1ea0: 41.323 61.323 41.309 61.309 41.302.301 61.302.301 41.302.300 61.302.300 41.302.309
    1ea9: 61.302.309 41.302.303 61.302.303 41.323.302 61.323.302 41.306.301 61.306.301 41.306.300
    1eb1: 61.306.300 41.306.309 61.306.309 41.306.303 61.306.303 41.323.306 61.323.306 45.323
    1eb9: 65.323 45.309 65.309 45.303 65.303 45.302.301 65.302.301 45.302.300 65.302.300
    1ec2: 45.302.309 65.302.309 45.302.303 65.302.303 45.323.302 65.323.302 49.309 69.309 49.323
    1ecb: 69.323 4f.323 6f.323 4f.309 6f.309 4f.302.301 6f.302.301 4f.302.300 6f.302.300
    1ed4: 4f.302.309 6f.302.309 4f.302.303 6f.302.303 4f.323.302 6f.323.302 4f.31b.301 6f.31b.301
    1edc: 4f.31b.300 6f.31b.300 4f.31b.309 6f.31b.309 4f.31b.303 6f.31b.303 4f.31b.323 6f.31b.323
    1ee4: 55.323 75.323 55.309 75.309 55.31b.301 75.31b.301 55.31b.300 75.31b.300 55.31b.309
    1eed: 75.31b.309 55.31b.303 75.31b.303 55.31b.323 75.31b.323 59.300 79.300 59.323 79.323
    1ef6: 59.309 79.309 59.303 79.303
    1f00: 3b1.313 3b1.314 3b1.313.300 3b1.314.300 3b1.313.301 3b1.314.301 3b1.313.342 3b1.314.342
    1f08: 391.313 391.314 391.313.300 391.314.300 391.313.301 391.314.301 391.313.342 391.314.342
    1f10: 3b5.313 3b5.314 3b5.313.300 3b5.314.300 3b5.313.301 3b5.314.301
    1f18: 395.313 395.314 395.313.300 395.314.300 395.313.301 395.314.301
    1f20: 3b7.313 3b7.314 3b7.313.300 3b7.314.300 3b7.313.301 3b7.314.301 3b7.313.342 3b7.314.342
    1f28: 397.313 397.314 397.313.300 397.314.300 397.313.301 397.314.301 397.313.342 397.314.342
    1f30: 3b9.313 3b9.314 3b9.313.300 3b9.314.300 3b9.313.301 3b9.314.301 3b9.313.342 3b9.314.342
    1f38: 399.313 399.314 399.313.300 399.314.300 399.313.301 399.314.301 399.313.342 399.314.342
    1f40: 3bf.313 3bf.314 3bf.313.300 3bf.314.300 3bf.313.301 3bf.314.301
    1f48: 39f.313 39f.314 39f.313.300 39f.314.300 39f.313.301 39f.314.301
    1f50: 3c5.313 3c5.314 3c5.313.300 3c5.314.300 3c5.313.301 3c5.314.301 3c5.313.342 3c5.314.342
    1f59: 3a5.314 1f5b: 3a5.314.300 1f5d: 3a5.314.301
    1f5f: 3a5.314.342 3c9.313 3c9.314 3c9.313.300 3c9.314.300 3c9.313.301 3c9.314.301 3c9.313.342
    1f67: 3c9.314.342 3a9.313 3a9.314 3a9.313.300 3a9.314.300 3a9.313.301 3a9.314.301 3a9.313.342
    1f6f: 3a9.314.342 3b1.300 1f72: 3b5.300 1f74: 3b7.300 1f76: 3b9.300 1f78: 3bf.300
    1f7a: 3c5.300 1f7c: 3c9.300
    1f80: 3b1.313.345 3b1.314.345 3b1.313.300.345 3b1.314.300.345 3b1.313.301.345 3b1.314.301.345
    1f86: 3b1.313.342.345 3b1.314.342.345 391.313.345 391.314.345 391.313.300.345 391.314.300.345
    1f8c: 391.313.301.345 391.314.301.345 391.313.342.345 391.314.342.345 3b7.313.345 3b7.314.345
    1f92: 3b7.313.300.345 3b7.314.300.345 3b7.313.301.345 3b7.314.301.345 3b7.313.342.345
    1f97: 3b7.314.342.345 397.313.345 397.314.345 397.313.300.345 397.314.300.345 397.313.301.345
    1f9d: 397.314.301.345 397.313.342.345 397.314.342.345 3c9.313.345 3c9.314.345 3c9.313.300.345
    1fa3: 3c9.314.300.345 3c9.313.301.345 3c9.314.301.345 3c9.313.342.345 3c9.314.342.345
    1fa8: 3a9.313.345 3a9.314.345 3a9.313.300.345 3a9.314.300.345 3a9.313.301.345 3a9.314.301.345
    1fae: 3a9.313.342.345 3a9.314.342.345 3b1.306 3b1.304 3b1.300.345 3b1.345 3b1.301.345
    1fb6: 3b1.342 3b1.342.345 391.306 391.304 391.300 1fbc: 391.345
    1fc1: a8.342 3b7.300.345 3b7.345 3b7.301.345 1fc6: 3b7.342 3b7.342.345 395.300 1fca: 397.300
    1fcc: 397.345 1fbf.300 1fbf.301 1fbf.342 3b9.306 3b9.304 3b9.308.300
    1fd6: 3b9.342 3b9.308.342 399.306 399.304 399.300
    1fdd: 1ffe.300 1ffe.301 1ffe.342 3c5.306 3c5.304 3c5.308.300
    1fe4: 3c1.313 3c1.314 3c5.342 3c5.308.342 3a5.306 3a5.304 3a5.300 1fec: 3a1.314 a8.300
    1ff2: 3c9.300.345 3c9.345 3c9.301.345 1ff6: 3c9.342 3c9.342.345 39f.300 1ffa: 3a9.300
    1ffc: 3a9.345 219a: 2190.338 2192.338 21ae: 2194.338 21cd: 21d0.338 21d4.338 21d2.338
    2204: 2203.338 2209: 2208.338 220c: 220b.338 2224: 2223.338 2226: 2225.338 2241: 223c.338
    2244: 2243.338 2247: 2245.338 2249: 2248.338 2260: 3d.338 2262: 2261.338
    226d: 224d.338 3c.338 3e.338 2264.338 2265.338 2274: 2272.338 2273.338 2278: 2276.338 2277.338
    2280: 227a.338 227b.338 2284: 2282.338 2283.338 2288: 2286.338 2287.338
    22ac: 22a2.338 22a8.338 22a9.338 22ab.338 22e0: 227c.338 227d.338 2291.338 2292.338
    22ea: 22b2.338 22b3.338 22b4.338 22b5.338 304c: 304b.3099 304e: 304d.3099 3050: 304f.3099
    3052: 3051.3099 3054: 3053.3099 3056: 3055.3099 3058: 3057.3099 305a: 3059.3099
    305c: 305b.3099 305e: 305d.3099 3060: 305f.3099 3062: 3061.3099 3065: 3064.3099
    3067: 3066.3099 3069: 3068.3099 3070: 306f.3099 306f.309a 3073: 3072.3099 3072.309a
    3076: 3075.3099 3075.309a 3079: 3078.3099 3078.309a 307c: 307b.3099 307b.309a 3094: 3046.3099
    309e: 309d.3099 30ac: 30ab.3099 30ae: 30ad.3099 30b0: 30af.3099 30b2: 30b1.3099
    30b4: 30b3.3099 30b6: 30b5.3099 30b8: 30b7.3099 30ba: 30b9.3099 30bc: 30bb.3099
    30be: 30bd.3099 30c0: 30bf.3099 30c2: 30c1.3099 30c5: 30c4.3099 30c7: 30c6.3099
    30c9: 30c8.3099 30d0: 30cf.3099 30cf.309a 30d3: 30d2.3099 30d2.309a 30d6: 30d5.3099 30d5.309a
    30d9: 30d8.3099 30d8.309a 30dc: 30db.3099 30db.309a 30f4: 30a6.3099
    30f7: 30ef.3099 30f0.3099 30f1.3099 30f2.3099 30fe: 30fd.3099 105c9: 105d2.307
    105e4: 105da.307 1109a: 11099.110ba 1109c: 1109b.110ba 110ab: 110a5.110ba
    1112e: 11131.11127 11132.11127 1134b: 11347.1133e 11347.11357 11383: 11382.113c9
    11385: 11384.113bb 1138e: 1138b.113c2 11391: 11390.113c9 113c5: 113c2.113c2
    113c7: 113c2.113b8 113c2.113c9 114bb: 114b9.114ba 114b9.114b0 114be: 114b9.114bd
    115ba: 115b8.115af 115b9.115af 11938: 11935.11930
    16121: 1611e.1611e 1611e.16129 1611e.1611f 16129.1611f 1611e.16120 1611e.1611e.1611f
    16127: 1611e.16129.1611f 1611e.1611e.16120 16d68: 16d67.16d67 16d63.16d67 16d63.16d67.16d67"

end WebHarvest.Text.Normal
