import WebHarvest.Text.CodeTable

/-! Characters that always give way to others with the same meaning. -/

namespace WebHarvest.Text.Normal

/-- Each character with those written in its place. -/
def replaced : List (Nat × List Nat) :=
  CodeTable.images "
    340: 300 301 343: 313 308.301 374: 2b9 37e: 3b 387: b7
    958: 915.93c 916.93c 917.93c 91c.93c 921.93c 922.93c 92b.93c 92f.93c 9dc: 9a1.9bc 9a2.9bc
    9df: 9af.9bc a33: a32.a3c a36: a38.a3c a59: a16.a3c a17.a3c a1c.a3c a5e: a2b.a3c
    b5c: b21.b3c b22.b3c f43: f42.fb7 f4d: f4c.fb7 f52: f51.fb7 f57: f56.fb7 f5c: f5b.fb7
    f69: f40.fb5 f73: f71.f72 f75: f71.f74 fb2.f80 f78: fb3.f80 f81: f71.f80 f93: f92.fb7
    f9d: f9c.fb7 fa2: fa1.fb7 fa7: fa6.fb7 fac: fab.fb7 fb9: f90.fb5 1f71: 3b1.301 1f73: 3b5.301
    1f75: 3b7.301 1f77: 3b9.301 1f79: 3bf.301 1f7b: 3c5.301 1f7d: 3c9.301 1fbb: 391.301 1fbe: 3b9
    1fc9: 395.301 1fcb: 397.301 1fd3: 3b9.308.301 1fdb: 399.301 1fe3: 3c5.308.301 1feb: 3a5.301
    1fee: a8.301 60 1ff9: 39f.301 1ffb: 3a9.301 1ffd: b4 2000: 2002 2003 2126: 3a9 212a: 4b 41.30a
    2329: 3008 3009 2adc: 2add.338
    f900: 8c48 66f4 8eca 8cc8 6ed1 4e32 53e5 9f9c 9f9c 5951 91d1 5587 5948 61f6 7669 7f85 863f
    f911: 87ba 88f8 908f 6a02 6d1b 70d9 73de 843d 916a 99f1 4e82 5375 6b04 721b 862d 9e1e 5d50
    f922: 6feb 85cd 8964 62c9 81d8 881f 5eca 6717 6d6a 72fc 90ce 4f86 51b7 52de 64c4 6ad3 7210
    f933: 76e7 8001 8606 865c 8def 9732 9b6f 9dfa 788c 797f 7da0 83c9 9304 9e7f 8ad6 58df 5f04
    f944: 7c60 807e 7262 78ca 8cc2 96f7 58d8 5c62 6a13 6dda 6f0f 7d2f 7e37 964b 52d2 808b 51dc
    f955: 51cc 7a1c 7dbe 83f1 9675 8b80 62cf 6a02 8afe 4e39 5be7 6012 7387 7570 5317 78fb 4fbf
    f966: 5fa9 4e0d 6ccc 6578 7d22 53c3 585e 7701 8449 8aaa 6bba 8fb0 6c88 62fe 82e5 63a0 7565
    f977: 4eae 5169 51c9 6881 7ce7 826f 8ad2 91cf 52f5 5442 5973 5eec 65c5 6ffe 792a 95ad 9a6a
    f988: 9e97 9ece 529b 66c6 6b77 8f62 5e74 6190 6200 649a 6f23 7149 7489 79ca 7df4 806f 8f26
    f999: 84ee 9023 934a 5217 52a3 54bd 70c8 88c2 8aaa 5ec9 5ff5 637b 6bae 7c3e 7375 4ee4 56f9
    f9aa: 5be7 5dba 601c 73b2 7469 7f9a 8046 9234 96f6 9748 9818 4f8b 79ae 91b4 96b8 60e1 4e86
    f9bb: 50da 5bee 5c3f 6599 6a02 71ce 7642 84fc 907c 9f8d 6688 962e 5289 677b 67f3 6d41 6e9c
    f9cc: 7409 7559 786b 7d10 985e 516d 622e 9678 502b 5d19 6dea 8f2a 5f8b 6144 6817 7387 9686
    f9dd: 5229 540f 5c65 6613 674e 68a8 6ce5 7406 75e2 7f79 88cf 88e1 91cc 96e2 533f 6eba 541d
    f9ee: 71d0 7498 85fa 96a3 9c57 9e9f 6797 6dcb 81e8 7acb 7b20 7c92 72c0 7099 8b58 4ec0 8336
    f9ff: 523a 5207 5ea6 62d3 7cd6 5b85 6d1e 66b4 8f3b 884c 964d 898b 5ed3 5140 55c0 fa10: 585a
    fa12: 6674 fa15: 51de 732a 76ca 793c 795e 7965 798f 9756 7cbe 7fbd fa20: 8612 fa22: 8af8
    fa25: 9038 90fd
    fa2a: 98ef 98fc 9928 9db4 90de 96b7 4fae 50e7 514d 52c9 52e4 5351 559d 5606 5668 5840 58a8
    fa3b: 5c64 5c6e 6094 6168 618e 61f2 654f 65e2 6691 6885 6d77 6e1a 6f22 716e 722b 7422 7891
    fa4c: 793e 7949 7948 7950 7956 795d 798d 798e 7a40 7a81 7bc0 7df4 7e09 7e41 7f72 8005 81ed
    fa5d: 8279 8279 8457 8910 8996 8b01 8b39 8cd3 8d08 8fb6 9038 96e3 97ff 983b 6075 242ee 8218
    fa70: 4e26 51b5 5168 4f80 5145 5180 52c7 52fa 559d 5555 5599 55e2 585a 58b3 5944 5954 5a62
    fa81: 5b28 5ed2 5ed9 5f69 5fad 60d8 614e 6108 618e 6160 61f2 6234 63c4 641c 6452 6556 6674
    fa92: 6717 671b 6756 6b79 6bba 6d41 6edb 6ecb 6f22 701e 716e 77a7 7235 72af 732a 7471 7506
    faa3: 753b 761d 761f 76ca 76db 76f4 774a 7740 78cc 7ab1 7bc0 7c7b 7d5b 7df4 7f3e 8005 8352
    fab4: 83ef 8779 8941 8986 8996 8abf 8af8 8acb 8b01 8afe 8aed 8b39 8b8a 8d08 8f38 9072 9199
    fac5: 9276 967c 96e3 9756 97db 97ff 980b 983b 9b12 9f9c 2284a 22844 233d5 3b9d 4018 4039 25249
    fad6: 25cd0 27ed3 9f43 9f8e fb1d: 5d9.5b4 fb1f: 5f2.5b7
    fb2a: 5e9.5c1 5e9.5c2 5e9.5bc.5c1 5e9.5bc.5c2 5d0.5b7 5d0.5b8 5d0.5bc 5d1.5bc 5d2.5bc 5d3.5bc
    fb34: 5d4.5bc 5d5.5bc 5d6.5bc fb38: 5d8.5bc 5d9.5bc 5da.5bc 5db.5bc 5dc.5bc fb3e: 5de.5bc
    fb40: 5e0.5bc 5e1.5bc fb43: 5e3.5bc 5e4.5bc
    fb46: 5e6.5bc 5e7.5bc 5e8.5bc 5e9.5bc 5ea.5bc 5d5.5b9 5d1.5bf 5db.5bf 5e4.5bf
    1d15e: 1d157.1d165 1d158.1d165 1d158.1d165.1d16e 1d158.1d165.1d16f 1d158.1d165.1d170
    1d163: 1d158.1d165.1d171 1d158.1d165.1d172
    1d1bb: 1d1b9.1d165 1d1ba.1d165 1d1b9.1d165.1d16e 1d1ba.1d165.1d16e 1d1b9.1d165.1d16f
    1d1c0: 1d1ba.1d165.1d16f
    2f800: 4e3d 4e38 4e41 20122 4f60 4fae 4fbb 5002 507a 5099 50e7 50cf 349e 2063a 514d 5154 5164
    2f811: 5177 2051c 34b9 5167 518d 2054b 5197 51a4 4ecc 51ac 51b5 291df 51f5 5203 34df 523b 5246
    2f822: 5272 5277 3515 52c7 52c9 52e4 52fa 5305 5306 5317 5349 5351 535a 5373 537d 537f 537f
    2f833: 537f 20a2c 7070 53ca 53df 20b63 53eb 53f1 5406 549e 5438 5448 5468 54a2 54f6 5510 5553
    2f844: 5563 5584 5584 5599 55ab 55b3 55c2 5716 5606 5717 5651 5674 5207 58ee 57ce 57f4 580d
    2f855: 578b 5832 5831 58ac 214e4 58f2 58f7 5906 591a 5922 5962 216a8 216ea 59ec 5a1b 5a27 59d8
    2f866: 5a66 36ee 36fc 5b08 5b3e 5b3e 219c8 5bc3 5bd8 5be7 5bf3 21b18 5bff 5c06 5f53 5c22 3781
    2f877: 5c60 5c6e 5cc0 5c8d 21de4 5d43 21de6 5d6e 5d6b 5d7c 5de1 5de2 382f 5dfd 5e28 5e3d 5e69
    2f888: 3862 22183 387c 5eb0 5eb3 5eb6 5eca 2a392 5efe 22331 22331 8201 5f22 5f22 38c7 232b8
    2f898: 261da 5f62 5f6b 38e3 5f9a 5fcd 5fd7 5ff9 6081 393a 391c 6094 226d4 60c7 6148 614c 614e
    2f8a9: 614c 617a 618e 61b2 61a4 61af 61de 61f2 61f6 6210 621b 625d 62b1 62d4 6350 22b0c 633d
    2f8ba: 62fc 6368 6383 63e4 22bf1 6422 63c5 63a9 3a2e 6469 647e 649d 6477 3a6c 654f 656c 2300a
    2f8cb: 65e3 66f8 6649 3b19 6691 3b08 3ae4 5192 5195 6700 669c 80ad 43d9 6717 671b 6721 675e
    2f8dc: 6753 233c3 3b49 67fa 6785 6852 6885 2346d 688e 681f 6914 3b9d 6942 69a3 69ea 6aa8 236a3
    2f8ed: 6adb 3c18 6b21 238a7 6b54 3c4e 6b72 6b9f 6bba 6bbb 23a8d 21d0b 23afa 6c4e 23cbc 6cbf
    2f8fd: 6ccd 6c67 6d16 6d3e 6d77 6d41 6d69 6d78 6d85 23d1e 6d34 6e2f 6e6e 3d33 6ecb 6ec7 23ed1
    2f90e: 6df9 6f6e 23f5e 23f8e 6fc6 7039 701e 701b 3d96 704a 707d 7077 70ad 20525 7145 24263
    2f91e: 719c 243ab 7228 7235 7250 24608 7280 7295 24735 24814 737a 738b 3eac 73a5 3eb8 3eb8
    2f92e: 7447 745c 7471 7485 74ca 3f1b 7524 24c36 753e 24c92 7570 2219f 7610 24fa1 24fb8 25044
    2f93e: 3ffc 4008 76f4 250f3 250f2 25119 25133 771e 771f 771f 774a 4039 778b 4046 4096 2541d
    2f94e: 784e 788c 78cc 40e3 25626 7956 2569a 256c5 798f 79eb 412f 7a40 7a4a 7a4f 2597c 25aa7
    2f95e: 25aa7 7aee 4202 25bab 7bc6 7bc9 4227 25c80 7cd2 42a0 7ce8 7ce3 7d00 25f86 7d63 4301
    2f96e: 7dc7 7e02 7e45 4334 26228 26247 4359 262d9 7f7a 2633e 7f95 7ffa 8005 264da 26523 8060
    2f97e: 265a8 8070 2335f 43d5 80b2 8103 440b 813e 5ab5 267a7 267b5 23393 2339c 8201 8204 8f9e
    2f98e: 446b 8291 828b 829d 52b3 82b1 82b3 82bd 82e6 26b3c 82e5 831d 8363 83ad 8323 83bd 83e7
    2f99f: 8457 8353 83ca 83cc 83dc 26c36 26d6b 26cd5 452b 84f1 84f3 8516 273ca 8564 26f2c 455d
    2f9af: 4561 26fb1 270d2 456b 8650 865c 8667 8669 86a9 8688 870e 86e2 8779 8728 876b 8786 45d7
    2f9c0: 87e1 8801 45f9 8860 8863 27667 88d7 88de 4635 88fa 34bb 278ae 27966 46be 46c7 8aa0 8aed
    2f9d1: 8b8a 8c55 27ca8 8cab 8cc1 8d1b 8d77 27f2f 20804 8dcb 8dbc 8df0 208de 8ed4 8f38 285d2
    2f9e1: 285ed 9094 90f1 9111 2872e 911b 9238 92d7 92d8 927c 93f9 9415 28bfa 958b 4995 95b7
    2f9f1: 28d77 49e6 96c3 5db2 9723 29145 2921a 4a6e 4a76 97e0 2940a 4ab2 29496 980b 980b 9829
    2fa01: 295b6 98e2 4b33 9929 99a7 99c2 99fe 4bce 29b30 9b12 9c40 9cfd 4cce 4ced 9d67 2a0ce 4cf8
    2fa12: 2a105 2a20e 2a291 9ebb 4d56 9ef9 9efe 9f05 9f0f 9f16 9f3b 2a600"

end WebHarvest.Text.Normal
