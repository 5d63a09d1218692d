import RunOperator.Unicode.Ranges

/-!
# Case folding

Characters that differ in case only form an orbit. The table gives each orbit of more than one
character by its size and its members.
-/

namespace RunOperator.Unicode

/-- Sizes and members of the orbits, one after the other. -/
def orbitText : String :=
  "2 65 97 2 66 98 2 67 99 2 68 100 2 69 101 2 70 102 2 71 103 2 72 104 2 73 105 2 74 106 3 75
    107 8490 2 76 108 2 77 109 2 78 110 2 79 111 2 80 112 2 81 113 2 82 114 3 83 115 383 2 84
    116 2 85 117 2 86 118 2 87 119 2 88 120 2 89 121 2 90 122 3 181 924 956 2 192 224 2 193 225
    2 194 226 2 195 227 2 196 228 3 197 229 8491 2 198 230 2 199 231 2 200 232 2 201 233 2 202
    234 2 203 235 2 204 236 2 205 237 2 206 238 2 207 239 2 208 240 2 209 241 2 210 242 2 211
    243 2 212 244 2 213 245 2 214 246 2 216 248 2 217 249 2 218 250 2 219 251 2 220 252 2 221
    253 2 222 254 2 223 7838 2 255 376 2 256 257 2 258 259 2 260 261 2 262 263 2 264 265 2 266
    267 2 268 269 2 270 271 2 272 273 2 274 275 2 276 277 2 278 279 2 280 281 2 282 283 2 284
    285 2 286 287 2 288 289 2 290 291 2 292 293 2 294 295 2 296 297 2 298 299 2 300 301 2 302
    303 2 306 307 2 308 309 2 310 311 2 313 314 2 315 316 2 317 318 2 319 320 2 321 322 2 323
    324 2 325 326 2 327 328 2 330 331 2 332 333 2 334 335 2 336 337 2 338 339 2 340 341 2 342
    343 2 344 345 2 346 347 2 348 349 2 350 351 2 352 353 2 354 355 2 356 357 2 358 359 2 360
    361 2 362 363 2 364 365 2 366 367 2 368 369 2 370 371 2 372 373 2 374 375 2 377 378 2 379
    380 2 381 382 2 384 579 2 385 595 2 386 387 2 388 389 2 390 596 2 391 392 2 393 598 2 394
    599 2 395 396 2 398 477 2 399 601 2 400 603 2 401 402 2 403 608 2 404 611 2 405 502 2 406
    617 2 407 616 2 408 409 2 410 573 2 412 623 2 413 626 2 414 544 2 415 629 2 416 417 2 418
    419 2 420 421 2 422 640 2 423 424 2 425 643 2 428 429 2 430 648 2 431 432 2 433 650 2 434
    651 2 435 436 2 437 438 2 439 658 2 440 441 2 444 445 2 447 503 3 452 453 454 3 455 456 457
    3 458 459 460 2 461 462 2 463 464 2 465 466 2 467 468 2 469 470 2 471 472 2 473 474 2 475
    476 2 478 479 2 480 481 2 482 483 2 484 485 2 486 487 2 488 489 2 490 491 2 492 493 2 494
    495 3 497 498 499 2 500 501 2 504 505 2 506 507 2 508 509 2 510 511 2 512 513 2 514 515 2
    516 517 2 518 519 2 520 521 2 522 523 2 524 525 2 526 527 2 528 529 2 530 531 2 532 533 2
    534 535 2 536 537 2 538 539 2 540 541 2 542 543 2 546 547 2 548 549 2 550 551 2 552 553 2
    554 555 2 556 557 2 558 559 2 560 561 2 562 563 2 570 11365 2 571 572 2 574 11366 2 575
    11390 2 576 11391 2 577 578 2 580 649 2 581 652 2 582 583 2 584 585 2 586 587 2 588 589 2
    590 591 2 592 11375 2 593 11373 2 594 11376 2 604 42923 2 609 42924 2 613 42893 2 614 42922
    2 618 42926 2 619 11362 2 620 42925 2 625 11374 2 637 11364 2 642 42949 2 647 42929 2 669
    42930 2 670 42928 4 837 921 953 8126 2 880 881 2 882 883 2 886 887 2 891 1021 2 892 1022 2
    893 1023 2 895 1011 2 902 940 2 904 941 2 905 942 2 906 943 2 908 972 2 910 973 2 911 974 2
    913 945 3 914 946 976 2 915 947 2 916 948 3 917 949 1013 2 918 950 2 919 951 4 920 952 977
    1012 3 922 954 1008 2 923 955 2 925 957 2 926 958 2 927 959 3 928 960 982 3 929 961 1009 3
    931 962 963 2 932 964 2 933 965 3 934 966 981 2 935 967 2 936 968 3 937 969 8486 2 938 970 2
    939 971 2 975 983 2 984 985 2 986 987 2 988 989 2 990 991 2 992 993 2 994 995 2 996 997 2
    998 999 2 1000 1001 2 1002 1003 2 1004 1005 2 1006 1007 2 1010 1017 2 1015 1016 2 1018 1019
    2 1024 1104 2 1025 1105 2 1026 1106 2 1027 1107 2 1028 1108 2 1029 1109 2 1030 1110 2 1031
    1111 2 1032 1112 2 1033 1113 2 1034 1114 2 1035 1115 2 1036 1116 2 1037 1117 2 1038 1118 2
    1039 1119 2 1040 1072 2 1041 1073 3 1042 1074 7296 2 1043 1075 3 1044 1076 7297 2 1045 1077
    2 1046 1078 2 1047 1079 2 1048 1080 2 1049 1081 2 1050 1082 2 1051 1083 2 1052 1084 2 1053
    1085 3 1054 1086 7298 2 1055 1087 2 1056 1088 3 1057 1089 7299 4 1058 1090 7300 7301 2 1059
    1091 2 1060 1092 2 1061 1093 2 1062 1094 2 1063 1095 2 1064 1096 2 1065 1097 3 1066 1098
    7302 2 1067 1099 2 1068 1100 2 1069 1101 2 1070 1102 2 1071 1103 2 1120 1121 3 1122 1123
    7303 2 1124 1125 2 1126 1127 2 1128 1129 2 1130 1131 2 1132 1133 2 1134 1135 2 1136 1137 2
    1138 1139 2 1140 1141 2 1142 1143 2 1144 1145 2 1146 1147 2 1148 1149 2 1150 1151 2 1152
    1153 2 1162 1163 2 1164 1165 2 1166 1167 2 1168 1169 2 1170 1171 2 1172 1173 2 1174 1175 2
    1176 1177 2 1178 1179 2 1180 1181 2 1182 1183 2 1184 1185 2 1186 1187 2 1188 1189 2 1190
    1191 2 1192 1193 2 1194 1195 2 1196 1197 2 1198 1199 2 1200 1201 2 1202 1203 2 1204 1205 2
    1206 1207 2 1208 1209 2 1210 1211 2 1212 1213 2 1214 1215 2 1216 1231 2 1217 1218 2 1219
    1220 2 1221 1222 2 1223 1224 2 1225 1226 2 1227 1228 2 1229 1230 2 1232 1233 2 1234 1235 2
    1236 1237 2 1238 1239 2 1240 1241 2 1242 1243 2 1244 1245 2 1246 1247 2 1248 1249 2 1250
    1251 2 1252 1253 2 1254 1255 2 1256 1257 2 1258 1259 2 1260 1261 2 1262 1263 2 1264 1265 2
    1266 1267 2 1268 1269 2 1270 1271 2 1272 1273 2 1274 1275 2 1276 1277 2 1278 1279 2 1280
    1281 2 1282 1283 2 1284 1285 2 1286 1287 2 1288 1289 2 1290 1291 2 1292 1293 2 1294 1295 2
    1296 1297 2 1298 1299 2 1300 1301 2 1302 1303 2 1304 1305 2 1306 1307 2 1308 1309 2 1310
    1311 2 1312 1313 2 1314 1315 2 1316 1317 2 1318 1319 2 1320 1321 2 1322 1323 2 1324 1325 2
    1326 1327 2 1329 1377 2 1330 1378 2 1331 1379 2 1332 1380 2 1333 1381 2 1334 1382 2 1335
    1383 2 1336 1384 2 1337 1385 2 1338 1386 2 1339 1387 2 1340 1388 2 1341 1389 2 1342 1390 2
    1343 1391 2 1344 1392 2 1345 1393 2 1346 1394 2 1347 1395 2 1348 1396 2 1349 1397 2 1350
    1398 2 1351 1399 2 1352 1400 2 1353 1401 2 1354 1402 2 1355 1403 2 1356 1404 2 1357 1405 2
    1358 1406 2 1359 1407 2 1360 1408 2 1361 1409 2 1362 1410 2 1363 1411 2 1364 1412 2 1365
    1413 2 1366 1414 2 4256 11520 2 4257 11521 2 4258 11522 2 4259 11523 2 4260 11524 2 4261
    11525 2 4262 11526 2 4263 11527 2 4264 11528 2 4265 11529 2 4266 11530 2 4267 11531 2 4268
    11532 2 4269 11533 2 4270 11534 2 4271 11535 2 4272 11536 2 4273 11537 2 4274 11538 2 4275
    11539 2 4276 11540 2 4277 11541 2 4278 11542 2 4279 11543 2 4280 11544 2 4281 11545 2 4282
    11546 2 4283 11547 2 4284 11548 2 4285 11549 2 4286 11550 2 4287 11551 2 4288 11552 2 4289
    11553 2 4290 11554 2 4291 11555 2 4292 11556 2 4293 11557 2 4295 11559 2 4301 11565 2 4304
    7312 2 4305 7313 2 4306 7314 2 4307 7315 2 4308 7316 2 4309 7317 2 4310 7318 2 4311 7319 2
    4312 7320 2 4313 7321 2 4314 7322 2 4315 7323 2 4316 7324 2 4317 7325 2 4318 7326 2 4319
    7327 2 4320 7328 2 4321 7329 2 4322 7330 2 4323 7331 2 4324 7332 2 4325 7333 2 4326 7334 2
    4327 7335 2 4328 7336 2 4329 7337 2 4330 7338 2 4331 7339 2 4332 7340 2 4333 7341 2 4334
    7342 2 4335 7343 2 4336 7344 2 4337 7345 2 4338 7346 2 4339 7347 2 4340 7348 2 4341 7349 2
    4342 7350 2 4343 7351 2 4344 7352 2 4345 7353 2 4346 7354 2 4349 7357 2 4350 7358 2 4351
    7359 2 5024 43888 2 5025 43889 2 5026 43890 2 5027 43891 2 5028 43892 2 5029 43893 2 5030
    43894 2 5031 43895 2 5032 43896 2 5033 43897 2 5034 43898 2 5035 43899 2 5036 43900 2 5037
    43901 2 5038 43902 2 5039 43903 2 5040 43904 2 5041 43905 2 5042 43906 2 5043 43907 2 5044
    43908 2 5045 43909 2 5046 43910 2 5047 43911 2 5048 43912 2 5049 43913 2 5050 43914 2 5051
    43915 2 5052 43916 2 5053 43917 2 5054 43918 2 5055 43919 2 5056 43920 2 5057 43921 2 5058
    43922 2 5059 43923 2 5060 43924 2 5061 43925 2 5062 43926 2 5063 43927 2 5064 43928 2 5065
    43929 2 5066 43930 2 5067 43931 2 5068 43932 2 5069 43933 2 5070 43934 2 5071 43935 2 5072
    43936 2 5073 43937 2 5074 43938 2 5075 43939 2 5076 43940 2 5077 43941 2 5078 43942 2 5079
    43943 2 5080 43944 2 5081 43945 2 5082 43946 2 5083 43947 2 5084 43948 2 5085 43949 2 5086
    43950 2 5087 43951 2 5088 43952 2 5089 43953 2 5090 43954 2 5091 43955 2 5092 43956 2 5093
    43957 2 5094 43958 2 5095 43959 2 5096 43960 2 5097 43961 2 5098 43962 2 5099 43963 2 5100
    43964 2 5101 43965 2 5102 43966 2 5103 43967 2 5104 5112 2 5105 5113 2 5106 5114 2 5107 5115
    2 5108 5116 2 5109 5117 3 7304 42570 42571 2 7545 42877 2 7549 11363 2 7566 42950 2 7680
    7681 2 7682 7683 2 7684 7685 2 7686 7687 2 7688 7689 2 7690 7691 2 7692 7693 2 7694 7695 2
    7696 7697 2 7698 7699 2 7700 7701 2 7702 7703 2 7704 7705 2 7706 7707 2 7708 7709 2 7710
    7711 2 7712 7713 2 7714 7715 2 7716 7717 2 7718 7719 2 7720 7721 2 7722 7723 2 7724 7725 2
    7726 7727 2 7728 7729 2 7730 7731 2 7732 7733 2 7734 7735 2 7736 7737 2 7738 7739 2 7740
    7741 2 7742 7743 2 7744 7745 2 7746 7747 2 7748 7749 2 7750 7751 2 7752 7753 2 7754 7755 2
    7756 7757 2 7758 7759 2 7760 7761 2 7762 7763 2 7764 7765 2 7766 7767 2 7768 7769 2 7770
    7771 2 7772 7773 2 7774 7775 3 7776 7777 7835 2 7778 7779 2 7780 7781 2 7782 7783 2 7784
    7785 2 7786 7787 2 7788 7789 2 7790 7791 2 7792 7793 2 7794 7795 2 7796 7797 2 7798 7799 2
    7800 7801 2 7802 7803 2 7804 7805 2 7806 7807 2 7808 7809 2 7810 7811 2 7812 7813 2 7814
    7815 2 7816 7817 2 7818 7819 2 7820 7821 2 7822 7823 2 7824 7825 2 7826 7827 2 7828 7829 2
    7840 7841 2 7842 7843 2 7844 7845 2 7846 7847 2 7848 7849 2 7850 7851 2 7852 7853 2 7854
    7855 2 7856 7857 2 7858 7859 2 7860 7861 2 7862 7863 2 7864 7865 2 7866 7867 2 7868 7869 2
    7870 7871 2 7872 7873 2 7874 7875 2 7876 7877 2 7878 7879 2 7880 7881 2 7882 7883 2 7884
    7885 2 7886 7887 2 7888 7889 2 7890 7891 2 7892 7893 2 7894 7895 2 7896 7897 2 7898 7899 2
    7900 7901 2 7902 7903 2 7904 7905 2 7906 7907 2 7908 7909 2 7910 7911 2 7912 7913 2 7914
    7915 2 7916 7917 2 7918 7919 2 7920 7921 2 7922 7923 2 7924 7925 2 7926 7927 2 7928 7929 2
    7930 7931 2 7932 7933 2 7934 7935 2 7936 7944 2 7937 7945 2 7938 7946 2 7939 7947 2 7940
    7948 2 7941 7949 2 7942 7950 2 7943 7951 2 7952 7960 2 7953 7961 2 7954 7962 2 7955 7963 2
    7956 7964 2 7957 7965 2 7968 7976 2 7969 7977 2 7970 7978 2 7971 7979 2 7972 7980 2 7973
    7981 2 7974 7982 2 7975 7983 2 7984 7992 2 7985 7993 2 7986 7994 2 7987 7995 2 7988 7996 2
    7989 7997 2 7990 7998 2 7991 7999 2 8000 8008 2 8001 8009 2 8002 8010 2 8003 8011 2 8004
    8012 2 8005 8013 2 8017 8025 2 8019 8027 2 8021 8029 2 8023 8031 2 8032 8040 2 8033 8041 2
    8034 8042 2 8035 8043 2 8036 8044 2 8037 8045 2 8038 8046 2 8039 8047 2 8048 8122 2 8049
    8123 2 8050 8136 2 8051 8137 2 8052 8138 2 8053 8139 2 8054 8154 2 8055 8155 2 8056 8184 2
    8057 8185 2 8058 8170 2 8059 8171 2 8060 8186 2 8061 8187 2 8064 8072 2 8065 8073 2 8066
    8074 2 8067 8075 2 8068 8076 2 8069 8077 2 8070 8078 2 8071 8079 2 8080 8088 2 8081 8089 2
    8082 8090 2 8083 8091 2 8084 8092 2 8085 8093 2 8086 8094 2 8087 8095 2 8096 8104 2 8097
    8105 2 8098 8106 2 8099 8107 2 8100 8108 2 8101 8109 2 8102 8110 2 8103 8111 2 8112 8120 2
    8113 8121 2 8115 8124 2 8131 8140 2 8144 8152 2 8145 8153 2 8160 8168 2 8161 8169 2 8165
    8172 2 8179 8188 2 8498 8526 2 8544 8560 2 8545 8561 2 8546 8562 2 8547 8563 2 8548 8564 2
    8549 8565 2 8550 8566 2 8551 8567 2 8552 8568 2 8553 8569 2 8554 8570 2 8555 8571 2 8556
    8572 2 8557 8573 2 8558 8574 2 8559 8575 2 8579 8580 2 9398 9424 2 9399 9425 2 9400 9426 2
    9401 9427 2 9402 9428 2 9403 9429 2 9404 9430 2 9405 9431 2 9406 9432 2 9407 9433 2 9408
    9434 2 9409 9435 2 9410 9436 2 9411 9437 2 9412 9438 2 9413 9439 2 9414 9440 2 9415 9441 2
    9416 9442 2 9417 9443 2 9418 9444 2 9419 9445 2 9420 9446 2 9421 9447 2 9422 9448 2 9423
    9449 2 11264 11312 2 11265 11313 2 11266 11314 2 11267 11315 2 11268 11316 2 11269 11317 2
    11270 11318 2 11271 11319 2 11272 11320 2 11273 11321 2 11274 11322 2 11275 11323 2 11276
    11324 2 11277 11325 2 11278 11326 2 11279 11327 2 11280 11328 2 11281 11329 2 11282 11330 2
    11283 11331 2 11284 11332 2 11285 11333 2 11286 11334 2 11287 11335 2 11288 11336 2 11289
    11337 2 11290 11338 2 11291 11339 2 11292 11340 2 11293 11341 2 11294 11342 2 11295 11343 2
    11296 11344 2 11297 11345 2 11298 11346 2 11299 11347 2 11300 11348 2 11301 11349 2 11302
    11350 2 11303 11351 2 11304 11352 2 11305 11353 2 11306 11354 2 11307 11355 2 11308 11356 2
    11309 11357 2 11310 11358 2 11311 11359 2 11360 11361 2 11367 11368 2 11369 11370 2 11371
    11372 2 11378 11379 2 11381 11382 2 11392 11393 2 11394 11395 2 11396 11397 2 11398 11399 2
    11400 11401 2 11402 11403 2 11404 11405 2 11406 11407 2 11408 11409 2 11410 11411 2 11412
    11413 2 11414 11415 2 11416 11417 2 11418 11419 2 11420 11421 2 11422 11423 2 11424 11425 2
    11426 11427 2 11428 11429 2 11430 11431 2 11432 11433 2 11434 11435 2 11436 11437 2 11438
    11439 2 11440 11441 2 11442 11443 2 11444 11445 2 11446 11447 2 11448 11449 2 11450 11451 2
    11452 11453 2 11454 11455 2 11456 11457 2 11458 11459 2 11460 11461 2 11462 11463 2 11464
    11465 2 11466 11467 2 11468 11469 2 11470 11471 2 11472 11473 2 11474 11475 2 11476 11477 2
    11478 11479 2 11480 11481 2 11482 11483 2 11484 11485 2 11486 11487 2 11488 11489 2 11490
    11491 2 11499 11500 2 11501 11502 2 11506 11507 2 42560 42561 2 42562 42563 2 42564 42565 2
    42566 42567 2 42568 42569 2 42572 42573 2 42574 42575 2 42576 42577 2 42578 42579 2 42580
    42581 2 42582 42583 2 42584 42585 2 42586 42587 2 42588 42589 2 42590 42591 2 42592 42593 2
    42594 42595 2 42596 42597 2 42598 42599 2 42600 42601 2 42602 42603 2 42604 42605 2 42624
    42625 2 42626 42627 2 42628 42629 2 42630 42631 2 42632 42633 2 42634 42635 2 42636 42637 2
    42638 42639 2 42640 42641 2 42642 42643 2 42644 42645 2 42646 42647 2 42648 42649 2 42650
    42651 2 42786 42787 2 42788 42789 2 42790 42791 2 42792 42793 2 42794 42795 2 42796 42797 2
    42798 42799 2 42802 42803 2 42804 42805 2 42806 42807 2 42808 42809 2 42810 42811 2 42812
    42813 2 42814 42815 2 42816 42817 2 42818 42819 2 42820 42821 2 42822 42823 2 42824 42825 2
    42826 42827 2 42828 42829 2 42830 42831 2 42832 42833 2 42834 42835 2 42836 42837 2 42838
    42839 2 42840 42841 2 42842 42843 2 42844 42845 2 42846 42847 2 42848 42849 2 42850 42851 2
    42852 42853 2 42854 42855 2 42856 42857 2 42858 42859 2 42860 42861 2 42862 42863 2 42873
    42874 2 42875 42876 2 42878 42879 2 42880 42881 2 42882 42883 2 42884 42885 2 42886 42887 2
    42891 42892 2 42896 42897 2 42898 42899 2 42900 42948 2 42902 42903 2 42904 42905 2 42906
    42907 2 42908 42909 2 42910 42911 2 42912 42913 2 42914 42915 2 42916 42917 2 42918 42919 2
    42920 42921 2 42931 43859 2 42932 42933 2 42934 42935 2 42936 42937 2 42938 42939 2 42940
    42941 2 42942 42943 2 42944 42945 2 42946 42947 2 42951 42952 2 42953 42954 2 42960 42961 2
    42966 42967 2 42968 42969 2 42997 42998 2 65313 65345 2 65314 65346 2 65315 65347 2 65316
    65348 2 65317 65349 2 65318 65350 2 65319 65351 2 65320 65352 2 65321 65353 2 65322 65354 2
    65323 65355 2 65324 65356 2 65325 65357 2 65326 65358 2 65327 65359 2 65328 65360 2 65329
    65361 2 65330 65362 2 65331 65363 2 65332 65364 2 65333 65365 2 65334 65366 2 65335 65367 2
    65336 65368 2 65337 65369 2 65338 65370 2 66560 66600 2 66561 66601 2 66562 66602 2 66563
    66603 2 66564 66604 2 66565 66605 2 66566 66606 2 66567 66607 2 66568 66608 2 66569 66609 2
    66570 66610 2 66571 66611 2 66572 66612 2 66573 66613 2 66574 66614 2 66575 66615 2 66576
    66616 2 66577 66617 2 66578 66618 2 66579 66619 2 66580 66620 2 66581 66621 2 66582 66622 2
    66583 66623 2 66584 66624 2 66585 66625 2 66586 66626 2 66587 66627 2 66588 66628 2 66589
    66629 2 66590 66630 2 66591 66631 2 66592 66632 2 66593 66633 2 66594 66634 2 66595 66635 2
    66596 66636 2 66597 66637 2 66598 66638 2 66599 66639 2 66736 66776 2 66737 66777 2 66738
    66778 2 66739 66779 2 66740 66780 2 66741 66781 2 66742 66782 2 66743 66783 2 66744 66784 2
    66745 66785 2 66746 66786 2 66747 66787 2 66748 66788 2 66749 66789 2 66750 66790 2 66751
    66791 2 66752 66792 2 66753 66793 2 66754 66794 2 66755 66795 2 66756 66796 2 66757 66797 2
    66758 66798 2 66759 66799 2 66760 66800 2 66761 66801 2 66762 66802 2 66763 66803 2 66764
    66804 2 66765 66805 2 66766 66806 2 66767 66807 2 66768 66808 2 66769 66809 2 66770 66810 2
    66771 66811 2 66928 66967 2 66929 66968 2 66930 66969 2 66931 66970 2 66932 66971 2 66933
    66972 2 66934 66973 2 66935 66974 2 66936 66975 2 66937 66976 2 66938 66977 2 66940 66979 2
    66941 66980 2 66942 66981 2 66943 66982 2 66944 66983 2 66945 66984 2 66946 66985 2 66947
    66986 2 66948 66987 2 66949 66988 2 66950 66989 2 66951 66990 2 66952 66991 2 66953 66992 2
    66954 66993 2 66956 66995 2 66957 66996 2 66958 66997 2 66959 66998 2 66960 66999 2 66961
    67000 2 66962 67001 2 66964 67003 2 66965 67004 2 68736 68800 2 68737 68801 2 68738 68802 2
    68739 68803 2 68740 68804 2 68741 68805 2 68742 68806 2 68743 68807 2 68744 68808 2 68745
    68809 2 68746 68810 2 68747 68811 2 68748 68812 2 68749 68813 2 68750 68814 2 68751 68815 2
    68752 68816 2 68753 68817 2 68754 68818 2 68755 68819 2 68756 68820 2 68757 68821 2 68758
    68822 2 68759 68823 2 68760 68824 2 68761 68825 2 68762 68826 2 68763 68827 2 68764 68828 2
    68765 68829 2 68766 68830 2 68767 68831 2 68768 68832 2 68769 68833 2 68770 68834 2 68771
    68835 2 68772 68836 2 68773 68837 2 68774 68838 2 68775 68839 2 68776 68840 2 68777 68841 2
    68778 68842 2 68779 68843 2 68780 68844 2 68781 68845 2 68782 68846 2 68783 68847 2 68784
    68848 2 68785 68849 2 68786 68850 2 71840 71872 2 71841 71873 2 71842 71874 2 71843 71875 2
    71844 71876 2 71845 71877 2 71846 71878 2 71847 71879 2 71848 71880 2 71849 71881 2 71850
    71882 2 71851 71883 2 71852 71884 2 71853 71885 2 71854 71886 2 71855 71887 2 71856 71888 2
    71857 71889 2 71858 71890 2 71859 71891 2 71860 71892 2 71861 71893 2 71862 71894 2 71863
    71895 2 71864 71896 2 71865 71897 2 71866 71898 2 71867 71899 2 71868 71900 2 71869 71901 2
    71870 71902 2 71871 71903 2 93760 93792 2 93761 93793 2 93762 93794 2 93763 93795 2 93764
    93796 2 93765 93797 2 93766 93798 2 93767 93799 2 93768 93800 2 93769 93801 2 93770 93802 2
    93771 93803 2 93772 93804 2 93773 93805 2 93774 93806 2 93775 93807 2 93776 93808 2 93777
    93809 2 93778 93810 2 93779 93811 2 93780 93812 2 93781 93813 2 93782 93814 2 93783 93815 2
    93784 93816 2 93785 93817 2 93786 93818 2 93787 93819 2 93788 93820 2 93789 93821 2 93790
    93822 2 93791 93823 2 125184 125218 2 125185 125219 2 125186 125220 2 125187 125221 2 125188
    125222 2 125189 125223 2 125190 125224 2 125191 125225 2 125192 125226 2 125193 125227 2
    125194 125228 2 125195 125229 2 125196 125230 2 125197 125231 2 125198 125232 2 125199
    125233 2 125200 125234 2 125201 125235 2 125202 125236 2 125203 125237 2 125204 125238 2
    125205 125239 2 125206 125240 2 125207 125241 2 125208 125242 2 125209 125243 2 125210
    125244 2 125211 125245 2 125212 125246 2 125213 125247 2 125214 125248 2 125215 125249 2
    125216 125250 2 125217 125251"

/-- Cuts numbers into groups, each led by its size. -/
def groups : Nat → List Nat → List (List Nat)
  | 0, _ | _, [] => []
  | limit + 1, size :: rest => rest.take size :: groups limit (rest.drop size)

/-- The orbits of more than one character. -/
def orbits : List (List Nat) :=
  let numbers := Ranges.numbers orbitText
  groups numbers.length numbers

/-- The set together with the code points that differ from its own in case only. -/
def Ranges.folded (r : Ranges) : Ranges :=
  r.union (Ranges.ofCodes (orbits.filter fun orbit => orbit.any r.contains).flatten)

end RunOperator.Unicode
