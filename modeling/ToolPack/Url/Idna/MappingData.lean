/-!
# The mapping of internationalised domain names, as data

One record for each run of code points, from zero on: the length of the run, then what becomes of
its characters (`Url/Idna/Mapping` reads the words).
-/

set_option autoImplicit false

namespace ToolPack
namespace Url
namespace Idna

/-- The records of the mapping table. -/
def mappingText : List String :=
  ["41 0;1a 3 20;25 0;20 2;1 5 20;7 0;1 5 20 308;1 0;1 5 61;2 0;1 1;1 0;1 5 20 304;2 0;2 4 80;",
   "1 5 20 301;1 5 3bc;2 0;1 5 20 327;1 5 31;1 5 6f;1 0;1 5 31 2044 34;1 5 31 2044 32;",
   "1 5 33 2044 34;1 0;17 3 20;1 0;7 3 20;21 0;30 6;1 5 69 307;1 0;2 5 69 6a;4 6;1 0;6 6;",
   "2 5 6c b7;8 6;1 5 2bc 6e;2e 6;1 5 ff;6 6;1 5 73;1 0;1 5 253;4 6;1 5 254;1 5 188;1 0;2 3 cd;",
   "1 5 18c;2 0;1 5 1dd;1 5 259;1 5 25b;1 5 192;1 0;1 5 260;1 5 263;1 0;1 5 269;1 5 268;1 5 199;",
   "3 0;1 5 26f;1 5 272;1 0;1 5 275;6 6;1 5 280;1 5 1a8;1 0;1 5 283;2 0;1 5 1ad;1 0;1 5 288;",
   "1 5 1b0;1 0;2 3 d9;4 6;1 5 292;1 5 1b9;3 0;1 5 1bd;7 0;3 5 64 17e;3 5 6c 6a;3 5 6e 6a;10 6;",
   "1 0;12 6;1 0;3 5 64 7a;1 5 1f5;1 0;1 5 195;1 5 1bf;28 6;1 5 19e;1 0;12 6;6 0;1 5 2c65;1 5 23c;",
   "1 0;1 5 19a;1 5 2c66;2 0;1 5 242;1 0;1 5 180;1 5 289;1 5 28c;a 6;60 0;1 5 68;1 5 266;1 5 6a;",
   "1 5 72;1 5 279;1 5 27b;1 5 281;1 5 77;1 5 79;1f 0;1 5 20 306;1 5 20 307;1 5 20 30a;1 5 20 328;",
   "1 5 20 303;1 5 20 30b;2 0;1 5 263;1 5 6c;1 5 73;1 5 78;1 5 295;5b 0;2 4 40;1 0;1 5 313;",
   "1 5 308 301;1 5 3b9;9 0;1 1;20 0;4 6;1 5 2b9;1 0;1 5 377;1 0;2 2;1 5 20 3b9;3 0;1 5 3b;",
   "1 5 3f3;4 2;1 5 20 301;1 5 20 308 301;1 5 3ac;1 5 b7;3 3 25;1 2;1 5 3cc;1 2;2 3 3f;1 0;",
   "11 3 20;1 2;9 3 20;23 0;1 5 3d7;1 5 3b2;1 5 3b8;1 5 3c5;1 5 3cd;1 5 3cb;1 5 3c6;1 5 3c0;1 0;",
   "18 6;1 5 3ba;1 5 3c1;1 5 3c3;1 0;1 5 3b8;1 5 3b5;1 0;1 5 3f8;1 0;1 5 3c3;1 5 3fb;2 0;3 4 82;",
   "10 3 50;20 3 20;30 0;22 6;8 0;36 6;1 5 4cf;e 6;1 0;60 6;1 2;26 3 30;2 2;2e 0;1 5 565 582;3 0;",
   "2 2;3 0;1 2;37 0;8 2;1b 0;4 2;6 0;11 2;16 0;1 2;58 0;1 5 627 674;1 5 648 674;1 5 6c7 674;",
   "1 5 64a 674;64 0;1 2;30 0;2 2;3b 0;2 2;65 0;e 2;3b 0;2 2;31 0;2 2;f 0;1 2;1c 0;2 2;1 0;1 2;",
   "b 0;5 2;20 0;7 2;4b 0;1 2;75 0;1 5 915 93c;1 5 916 93c;1 5 917 93c;1 5 91c 93c;1 5 921 93c;",
   "1 5 922 93c;1 5 92b 93c;1 5 92f 93c;24 0;1 2;8 0;2 2;2 0;2 2;16 0;1 2;7 0;1 2;1 0;3 2;4 0;2 2;",
   "9 0;2 2;2 0;2 2;4 0;8 2;1 0;4 2;1 5 9a1 9bc;1 5 9a2 9bc;1 2;1 5 9af 9bc;4 0;2 2;19 0;2 2;3 0;",
   "1 2;6 0;4 2;2 0;2 2;16 0;1 2;7 0;1 2;1 0;1 5 a32 a3c;1 2;1 0;1 5 a38 a3c;1 2;2 0;2 2;1 0;1 2;",
   "5 0;4 2;2 0;2 2;3 0;3 2;1 0;7 2;1 5 a16 a3c;1 5 a17 a3c;1 5 a1c a3c;1 0;1 2;1 5 a2b a3c;7 2;",
   "11 0;a 2;3 0;1 2;9 0;1 2;3 0;1 2;16 0;1 2;7 0;1 2;2 0;1 2;5 0;2 2;a 0;1 2;3 0;1 2;3 0;2 2;1 0;",
   "f 2;4 0;2 2;c 0;7 2;7 0;1 2;3 0;1 2;8 0;2 2;2 0;2 2;16 0;1 2;7 0;1 2;2 0;1 2;5 0;2 2;9 0;2 2;",
   "2 0;2 2;3 0;7 2;3 0;4 2;1 5 b21 b3c;1 5 b22 b3c;1 2;5 0;2 2;12 0;a 2;2 0;1 2;6 0;3 2;3 0;1 2;",
   "4 0;3 2;2 0;1 2;1 0;1 2;2 0;3 2;2 0;3 2;3 0;3 2;c 0;4 2;5 0;3 2;3 0;1 2;4 0;2 2;1 0;6 2;1 0;",
   "e 2;15 0;5 2;d 0;1 2;3 0;1 2;17 0;1 2;10 0;2 2;9 0;1 2;3 0;1 2;4 0;7 2;2 0;1 2;3 0;1 2;2 0;",
   "2 2;4 0;2 2;a 0;7 2;16 0;1 2;3 0;1 2;17 0;1 2;a 0;1 2;5 0;2 2;9 0;1 2;3 0;1 2;4 0;7 2;2 0;5 2;",
   "3 0;1 2;4 0;2 2;a 0;1 2;3 0;c 2;d 0;1 2;3 0;1 2;33 0;1 2;3 0;1 2;6 0;4 2;10 0;2 2;1a 0;1 2;",
   "3 0;1 2;12 0;3 2;18 0;1 2;9 0;1 2;1 0;2 2;7 0;3 2;1 0;4 2;6 0;1 2;1 0;1 2;8 0;6 2;a 0;2 2;3 0;",
   "c 2;32 0;1 5 e4d e32;7 0;4 2;1d 0;25 2;2 0;1 2;1 0;1 2;5 0;1 2;18 0;1 2;1 0;1 2;c 0;",
   "1 5 ecd eb2;a 0;2 2;5 0;1 2;1 0;1 2;7 0;1 2;a 0;2 2;1 5 eab e99;1 5 eab ea1;2 0;20 2;c 0;",
   "1 5 f0b;36 0;1 5 f42 fb7;4 0;1 2;4 0;1 5 f4c fb7;4 0;1 5 f51 fb7;4 0;1 5 f56 fb7;4 0;",
   "1 5 f5b fb7;c 0;1 5 f40 fb5;3 0;4 2;2 0;1 5 f71 f72;1 0;1 5 f71 f74;1 5 fb2 f80;",
   "1 5 fb2 f71 f80;1 5 fb3 f80;1 5 fb3 f71 f80;7 0;1 5 f71 f80;11 0;1 5 f92 fb7;4 0;1 2;4 0;",
   "1 5 f9c fb7;4 0;1 5 fa1 fb7;4 0;1 5 fa6 fb7;4 0;1 5 fab fb7;c 0;1 5 f90 fb5;3 0;1 2;f 0;1 2;",
   "d 0;25 2;a0 0;26 3 1c60;1 2;1 5 2d27;5 2;1 5 2d2d;2 2;2c 0;1 5 10dc;62 0;2 1;e8 0;1 2;4 0;2 2;",
   "7 0;1 2;1 0;1 2;4 0;2 2;29 0;1 2;4 0;2 2;21 0;1 2;4 0;2 2;7 0;1 2;1 0;1 2;4 0;2 2;f 0;1 2;",
   "39 0;1 2;4 0;2 2;43 0;2 2;20 0;3 2;1a 0;6 2;56 0;2 2;6 4 8;2 2;280 0;1 2;1c 0;3 2;59 0;7 2;",
   "16 0;9 2;18 0;9 2;14 0;c 2;d 0;1 2;3 0;1 2;2 0;c 2;34 0;2 1;28 0;2 2;a 0;6 2;a 0;6 2;b 0;5 1;",
   "a 0;6 2;59 0;7 2;2b 0;5 2;46 0;a 2;1f 0;1 2;c 0;4 2;c 0;4 2;1 0;3 2;2a 0;2 2;5 0;b 2;2c 0;4 2;",
   "1a 0;6 2;b 0;3 2;3e 0;2 2;41 0;1 2;1d 0;2 2;b 0;6 2;a 0;6 2;e 0;2 2;2e 0;2 2;c 0;14 2;4d 0;",
   "1 2;a6 0;8 2;3c 0;3 2;f 0;3 2;33 0;1 5 432;1 5 434;1 5 43e;2 4 1842;1 5 442;1 5 44a;1 5 463;",
   "1 5 a64b;1 5 1c8a;1 0;5 2;2b 4 bc0;2 2;3 4 bc0;8 0;8 2;2b 0;5 2;2c 0;1 5 61;1 5 e6;1 5 62;1 0;",
   "2 4 1ccc;1 5 1dd;8 4 1ccc;1 0;1 5 6f;1 5 223;1 5 70;1 5 72;2 4 1ccc;1 5 77;1 5 61;2 4 1af4;",
   "1 5 1d02;1 5 62;2 4 1ce4;1 5 259;2 4 1af0;1 5 67;1 0;1 5 6b;1 5 6d;1 5 14b;1 5 6f;1 5 254;",
   "2 4 3e;1 5 70;2 4 1ce3;1 5 1d1d;1 5 26f;1 5 76;1 5 1d25;3 4 19ab;2 4 199a;1 5 69;1 5 72;",
   "2 4 1cef;2 4 19b4;1 5 3c1;2 4 19a3;d 0;1 5 43d;22 0;1 5 252;1 5 63;1 5 255;1 5 f0;1 5 25c;",
   "1 5 66;1 5 25f;1 5 261;1 5 265;3 4 1b3c;1 5 1d7b;1 5 29d;1 5 26d;1 5 1d85;1 5 29f;1 5 271;",
   "1 5 270;4 4 1b3c;1 5 278;2 4 1b31;1 5 1ab;2 4 1b2d;1 5 1d1c;2 4 1b2e;1 5 7a;3 4 1b2c;1 5 3b8;",
   "40 0;96 6;4 0;1 5 61 2be;1 5 1e61;2 0;1 5 df;1 0;60 6;8 0;8 4 8;6 0;2 2;6 4 8;2 2;8 0;8 4 8;",
   "8 0;8 4 8;6 0;2 2;6 4 8;2 2;8 0;1 2;1 5 1f51;1 2;1 5 1f53;1 2;1 5 1f55;1 2;1 5 1f57;8 0;8 4 8;",
   "1 0;1 5 3ac;1 0;1 5 3ad;1 0;1 5 3ae;1 0;1 5 3af;1 0;1 5 3cc;1 0;1 5 3cd;1 0;1 5 3ce;2 2;",
   "1 5 1f00 3b9;1 5 1f01 3b9;1 5 1f02 3b9;1 5 1f03 3b9;1 5 1f04 3b9;1 5 1f05 3b9;1 5 1f06 3b9;",
   "1 5 1f07 3b9;1 5 1f00 3b9;1 5 1f01 3b9;1 5 1f02 3b9;1 5 1f03 3b9;1 5 1f04 3b9;1 5 1f05 3b9;",
   "1 5 1f06 3b9;1 5 1f07 3b9;1 5 1f20 3b9;1 5 1f21 3b9;1 5 1f22 3b9;1 5 1f23 3b9;1 5 1f24 3b9;",
   "1 5 1f25 3b9;1 5 1f26 3b9;1 5 1f27 3b9;1 5 1f20 3b9;1 5 1f21 3b9;1 5 1f22 3b9;1 5 1f23 3b9;",
   "1 5 1f24 3b9;1 5 1f25 3b9;1 5 1f26 3b9;1 5 1f27 3b9;1 5 1f60 3b9;1 5 1f61 3b9;1 5 1f62 3b9;",
   "1 5 1f63 3b9;1 5 1f64 3b9;1 5 1f65 3b9;1 5 1f66 3b9;1 5 1f67 3b9;1 5 1f60 3b9;1 5 1f61 3b9;",
   "1 5 1f62 3b9;1 5 1f63 3b9;1 5 1f64 3b9;1 5 1f65 3b9;1 5 1f66 3b9;1 5 1f67 3b9;2 0;",
   "1 5 1f70 3b9;1 5 3b1 3b9;1 5 3ac 3b9;1 2;1 0;1 5 1fb6 3b9;2 4 8;1 5 1f70;1 5 3ac;1 5 3b1 3b9;",
   "1 5 20 313;1 5 3b9;1 5 20 313;1 5 20 342;1 5 20 308 342;1 5 1f74 3b9;1 5 3b7 3b9;1 5 3ae 3b9;",
   "1 2;1 0;1 5 1fc6 3b9;1 5 1f72;1 5 3ad;1 5 1f74;1 5 3ae;1 5 3b7 3b9;1 5 20 313 300;",
   "1 5 20 313 301;1 5 20 313 342;3 0;1 5 390;2 2;2 0;2 4 8;1 5 1f76;1 5 3af;1 2;1 5 20 314 300;",
   "1 5 20 314 301;1 5 20 314 342;3 0;1 5 3b0;4 0;2 4 8;1 5 1f7a;1 5 3cd;1 5 1fe5;1 5 20 308 300;",
   "1 5 20 308 301;1 5 60;2 2;1 5 1f7c 3b9;1 5 3c9 3b9;1 5 3ce 3b9;1 2;1 0;1 5 1ff6 3b9;1 5 1f78;",
   "1 5 3cc;1 5 1f7c;1 5 3ce;1 5 3c9 3b9;1 5 20 301;1 5 20 314;1 2;b 5 20;1 1;2 0;2 2;1 0;",
   "1 5 2010;5 0;1 5 20 333;c 0;3 2;1 0;7 2;1 5 20;3 0;1 5 2032 2032;1 5 2032 2032 2032;1 0;",
   "1 5 2035 2035;1 5 2035 2035 2035;4 0;1 5 21 21;1 0;1 5 20 305;8 0;1 5 3f 3f;1 5 3f 21;",
   "1 5 21 3f;d 0;1 5 2032 2032 2032 2032;7 0;1 5 20;5 1;5 2;6 1;1 5 30;1 5 69;2 2;6 4 2040;",
   "1 5 2b;1 5 2212;1 5 3d;2 4 2055;1 5 6e;a 4 2050;1 5 2b;1 5 2212;1 5 3d;2 4 2065;1 2;1 5 61;",
   "1 5 65;1 5 6f;1 5 78;1 5 259;1 5 68;4 4 202b;1 5 70;2 4 2028;3 2;8 0;1 5 72 73;19 0;e 2;21 0;",
   "f 2;1 5 61 2f 63;1 5 61 2f 73;1 5 63;1 5 b0 63;1 0;1 5 63 2f 6f;1 5 63 2f 75;1 5 25b;1 0;",
   "1 5 b0 66;2 4 20a3;3 5 68;1 5 127;2 5 69;2 5 6c;1 0;1 5 6e;1 5 6e 6f;2 0;3 4 20a9;2 5 72;2 0;",
   "1 5 73 6d;1 5 74 65 6c;1 5 74 6d;1 0;1 5 7a;1 0;1 5 3c9;1 0;1 5 7a;1 0;1 5 6b;1 5 e5;2 4 20ca;",
   "1 0;2 5 65;1 5 66;1 5 214e;1 5 6d;1 5 6f;4 4 1b65;1 5 69;1 0;1 5 66 61 78;1 5 3c0;2 5 3b3;",
   "1 5 3c0;1 5 2211;4 0;2 5 64;1 5 65;2 4 20df;6 0;1 5 31 2044 37;1 5 31 2044 39;",
   "1 5 31 2044 31 30;1 5 31 2044 33;1 5 32 2044 33;1 5 31 2044 35;1 5 32 2044 35;1 5 33 2044 35;",
   "1 5 34 2044 35;1 5 31 2044 36;1 5 35 2044 36;1 5 31 2044 38;1 5 33 2044 38;1 5 35 2044 38;",
   "1 5 37 2044 38;1 5 31 2044;1 5 69;1 5 69 69;1 5 69 69 69;1 5 69 76;1 5 76;1 5 76 69;",
   "1 5 76 69 69;1 5 76 69 69 69;1 5 69 78;1 5 78;1 5 78 69;1 5 78 69 69;1 5 6c;2 4 210a;1 5 6d;",
   "1 5 69;1 5 69 69;1 5 69 69 69;1 5 69 76;1 5 76;1 5 76 69;1 5 76 69 69;1 5 76 69 69 69;",
   "1 5 69 78;1 5 78;1 5 78 69;1 5 78 69 69;1 5 6c;2 4 211a;1 5 6d;3 0;1 5 2184;5 0;",
   "1 5 30 2044 33;2 0;4 2;9c 0;1 5 222b 222b;1 5 222b 222b 222b;1 0;1 5 222e 222e;",
   "1 5 222e 222e 222e;f8 0;2 3 cdf;ff 0;16 2;b 0;15 2;9 4 242f;1 5 31 30;1 5 31 31;1 5 31 32;",
   "1 5 31 33;1 5 31 34;1 5 31 35;1 5 31 36;1 5 31 37;1 5 31 38;1 5 31 39;1 5 32 30;1 5 28 31 29;",
   "1 5 28 32 29;1 5 28 33 29;1 5 28 34 29;1 5 28 35 29;1 5 28 36 29;1 5 28 37 29;1 5 28 38 29;",
   "1 5 28 39 29;1 5 28 31 30 29;1 5 28 31 31 29;1 5 28 31 32 29;1 5 28 31 33 29;1 5 28 31 34 29;",
   "1 5 28 31 35 29;1 5 28 31 36 29;1 5 28 31 37 29;1 5 28 31 38 29;1 5 28 31 39 29;",
   "1 5 28 32 30 29;14 2;1 5 28 61 29;1 5 28 62 29;1 5 28 63 29;1 5 28 64 29;1 5 28 65 29;",
   "1 5 28 66 29;1 5 28 67 29;1 5 28 68 29;1 5 28 69 29;1 5 28 6a 29;1 5 28 6b 29;1 5 28 6c 29;",
   "1 5 28 6d 29;1 5 28 6e 29;1 5 28 6f 29;1 5 28 70 29;1 5 28 71 29;1 5 28 72 29;1 5 28 73 29;",
   "1 5 28 74 29;1 5 28 75 29;1 5 28 76 29;1 5 28 77 29;1 5 28 78 29;1 5 28 79 29;1 5 28 7a 29;",
   "1a 4 2455;1a 4 246f;1 5 30;521 0;1 5 222b 222b 222b 222b;67 0;1 5 3a 3a 3d;1 5 3d 3d;",
   "1 5 3d 3d 3d;65 0;1 5 2add 338;97 0;2 2;8a 0;30 3 30;30 0;1 5 2c61;1 0;1 5 26b;1 5 1d7d;",
   "1 5 27d;2 0;6 6;1 5 251;1 5 271;1 5 250;1 5 252;1 0;1 5 2c73;2 0;1 5 2c76;6 0;1 5 6a;1 5 76;",
   "2 4 2a3f;64 6;7 0;4 6;3 0;1 5 2cf3;1 0;5 2;2d 0;1 2;1 0;5 2;1 0;2 2;38 0;7 2;1 5 2d61;1 0;e 2;",
   "18 0;9 2;7 0;1 2;7 0;1 2;7 0;1 2;7 0;1 2;7 0;1 2;7 0;1 2;7 0;1 2;7 0;1 2;7e 0;22 2;1a 0;1 2;",
   "4 0;1 5 6bcd;53 0;1 5 9f9f;c 2;1 5 4e00;1 5 4e28;1 5 4e36;1 5 4e3f;1 5 4e59;1 5 4e85;1 5 4e8c;",
   "1 5 4ea0;1 5 4eba;1 5 513f;1 5 5165;1 5 516b;1 5 5182;1 5 5196;1 5 51ab;1 5 51e0;1 5 51f5;",
   "1 5 5200;1 5 529b;1 5 52f9;1 5 5315;1 5 531a;1 5 5338;1 5 5341;1 5 535c;1 5 5369;1 5 5382;",
   "1 5 53b6;1 5 53c8;1 5 53e3;1 5 56d7;1 5 571f;1 5 58eb;1 5 5902;1 5 590a;1 5 5915;1 5 5927;",
   "1 5 5973;1 5 5b50;1 5 5b80;1 5 5bf8;1 5 5c0f;1 5 5c22;1 5 5c38;1 5 5c6e;1 5 5c71;1 5 5ddb;",
   "1 5 5de5;1 5 5df1;1 5 5dfe;1 5 5e72;1 5 5e7a;1 5 5e7f;1 5 5ef4;1 5 5efe;1 5 5f0b;1 5 5f13;",
   "1 5 5f50;1 5 5f61;1 5 5f73;1 5 5fc3;1 5 6208;1 5 6236;1 5 624b;1 5 652f;1 5 6534;1 5 6587;",
   "1 5 6597;1 5 65a4;1 5 65b9;1 5 65e0;1 5 65e5;1 5 66f0;1 5 6708;1 5 6728;1 5 6b20;1 5 6b62;",
   "1 5 6b79;1 5 6bb3;1 5 6bcb;1 5 6bd4;1 5 6bdb;1 5 6c0f;1 5 6c14;1 5 6c34;1 5 706b;1 5 722a;",
   "1 5 7236;1 5 723b;1 5 723f;1 5 7247;1 5 7259;1 5 725b;1 5 72ac;1 5 7384;1 5 7389;1 5 74dc;",
   "1 5 74e6;1 5 7518;1 5 751f;1 5 7528;1 5 7530;1 5 758b;1 5 7592;1 5 7676;1 5 767d;1 5 76ae;",
   "1 5 76bf;1 5 76ee;1 5 77db;1 5 77e2;1 5 77f3;1 5 793a;1 5 79b8;1 5 79be;1 5 7a74;1 5 7acb;",
   "1 5 7af9;1 5 7c73;1 5 7cf8;1 5 7f36;1 5 7f51;1 5 7f8a;1 5 7fbd;1 5 8001;1 5 800c;1 5 8012;",
   "1 5 8033;1 5 807f;1 5 8089;1 5 81e3;1 5 81ea;1 5 81f3;1 5 81fc;1 5 820c;1 5 821b;1 5 821f;",
   "1 5 826e;1 5 8272;1 5 8278;1 5 864d;1 5 866b;1 5 8840;1 5 884c;1 5 8863;1 5 897e;1 5 898b;",
   "1 5 89d2;1 5 8a00;1 5 8c37;1 5 8c46;1 5 8c55;1 5 8c78;1 5 8c9d;1 5 8d64;1 5 8d70;1 5 8db3;",
   "1 5 8eab;1 5 8eca;1 5 8f9b;1 5 8fb0;1 5 8fb5;1 5 9091;1 5 9149;1 5 91c6;1 5 91cc;1 5 91d1;",
   "1 5 9577;1 5 9580;1 5 961c;1 5 96b6;1 5 96b9;1 5 96e8;1 5 9751;1 5 975e;1 5 9762;1 5 9769;",
   "1 5 97cb;1 5 97ed;1 5 97f3;1 5 9801;1 5 98a8;1 5 98db;1 5 98df;1 5 9996;1 5 9999;1 5 99ac;",
   "1 5 9aa8;1 5 9ad8;1 5 9adf;1 5 9b25;1 5 9b2f;1 5 9b32;1 5 9b3c;1 5 9b5a;1 5 9ce5;1 5 9e75;",
   "1 5 9e7f;1 5 9ea5;1 5 9ebb;1 5 9ec3;1 5 9ecd;1 5 9ed1;1 5 9ef9;1 5 9efd;1 5 9f0e;1 5 9f13;",
   "1 5 9f20;1 5 9f3b;1 5 9f4a;1 5 9f52;1 5 9f8d;1 5 9f9c;1 5 9fa0;2a 2;1 5 20;1 0;1 5 2e;33 0;",
   "1 5 3012;1 0;1 5 5341;2 3 230b;5 0;1 2;56 0;2 2;2 0;1 5 20 3099;1 5 20 309a;2 0;1 5 3088 308a;",
   "5f 0;1 5 30b3 30c8;5 2;2b 0;1 2;2 4 2031;1 5 11aa;1 5 1102;2 4 1f89;3 4 2034;6 4 1f8a;",
   "1 5 111a;3 4 203b;1 5 1121;a 4 203c;15 4 1fee;1 1;2 4 2051;2 4 1fa0;1 5 11cc;1 5 11ce;",
   "1 5 11d3;1 5 11d7;1 5 11d9;1 5 111c;1 5 11dd;1 5 11df;2 4 2054;1 5 1120;2 4 2052;1 5 1127;",
   "1 5 1129;5 4 204d;1 5 1132;1 5 1136;1 5 1140;1 5 1147;1 5 114c;2 4 1f91;3 4 202d;2 4 2003;",
   "1 5 1188;2 4 1ff9;1 5 1194;1 5 119e;1 5 11a1;1 2;2 0;1 5 4e00;1 5 4e8c;1 5 4e09;1 5 56db;",
   "1 5 4e0a;1 5 4e2d;1 5 4e0b;1 5 7532;1 5 4e59;1 5 4e19;1 5 4e01;1 5 5929;1 5 5730;1 5 4eba;",
   "46 0;a 2;10 0;1 5 28 1100 29;1 5 28 1102 29;1 5 28 1103 29;1 5 28 1105 29;1 5 28 1106 29;",
   "1 5 28 1107 29;1 5 28 1109 29;1 5 28 110b 29;1 5 28 110c 29;1 5 28 110e 29;1 5 28 110f 29;",
   "1 5 28 1110 29;1 5 28 1111 29;1 5 28 1112 29;1 5 28 ac00 29;1 5 28 b098 29;1 5 28 b2e4 29;",
   "1 5 28 b77c 29;1 5 28 b9c8 29;1 5 28 bc14 29;1 5 28 c0ac 29;1 5 28 c544 29;1 5 28 c790 29;",
   "1 5 28 cc28 29;1 5 28 ce74 29;1 5 28 d0c0 29;1 5 28 d30c 29;1 5 28 d558 29;1 5 28 c8fc 29;",
   "1 5 28 c624 c804 29;1 5 28 c624 d6c4 29;1 2;1 5 28 4e00 29;1 5 28 4e8c 29;1 5 28 4e09 29;",
   "1 5 28 56db 29;1 5 28 4e94 29;1 5 28 516d 29;1 5 28 4e03 29;1 5 28 516b 29;1 5 28 4e5d 29;",
   "1 5 28 5341 29;1 5 28 6708 29;1 5 28 706b 29;1 5 28 6c34 29;1 5 28 6728 29;1 5 28 91d1 29;",
   "1 5 28 571f 29;1 5 28 65e5 29;1 5 28 682a 29;1 5 28 6709 29;1 5 28 793e 29;1 5 28 540d 29;",
   "1 5 28 7279 29;1 5 28 8ca1 29;1 5 28 795d 29;1 5 28 52b4 29;1 5 28 4ee3 29;1 5 28 547c 29;",
   "1 5 28 5b66 29;1 5 28 76e3 29;1 5 28 4f01 29;1 5 28 8cc7 29;1 5 28 5354 29;1 5 28 796d 29;",
   "1 5 28 4f11 29;1 5 28 81ea 29;1 5 28 81f3 29;1 5 554f;1 5 5e7c;1 5 6587;1 5 7b8f;8 0;",
   "1 5 70 74 65;1 5 32 31;1 5 32 32;1 5 32 33;1 5 32 34;1 5 32 35;1 5 32 36;1 5 32 37;1 5 32 38;",
   "1 5 32 39;1 5 33 30;1 5 33 31;1 5 33 32;1 5 33 33;1 5 33 34;1 5 33 35;1 5 1100;2 4 215f;",
   "3 4 215e;1 5 1109;2 4 215c;5 4 215b;1 5 ac00;1 5 b098;1 5 b2e4;1 5 b77c;1 5 b9c8;1 5 bc14;",
   "1 5 c0ac;1 5 c544;1 5 c790;1 5 cc28;1 5 ce74;1 5 d0c0;1 5 d30c;1 5 d558;1 5 cc38 ace0;",
   "1 5 c8fc c758;1 5 c6b0;1 0;1 5 4e00;1 5 4e8c;1 5 4e09;1 5 56db;1 5 4e94;1 5 516d;1 5 4e03;",
   "1 5 516b;1 5 4e5d;1 5 5341;1 5 6708;1 5 706b;1 5 6c34;1 5 6728;1 5 91d1;1 5 571f;1 5 65e5;",
   "1 5 682a;1 5 6709;1 5 793e;1 5 540d;1 5 7279;1 5 8ca1;1 5 795d;1 5 52b4;1 5 79d8;1 5 7537;",
   "1 5 5973;1 5 9069;1 5 512a;1 5 5370;1 5 6ce8;1 5 9805;1 5 4f11;1 5 5199;1 5 6b63;1 5 4e0a;",
   "1 5 4e2d;1 5 4e0b;1 5 5de6;1 5 53f3;1 5 533b;1 5 5b97;1 5 5b66;1 5 76e3;1 5 4f01;1 5 8cc7;",
   "1 5 5354;1 5 591c;1 5 33 36;1 5 33 37;1 5 33 38;1 5 33 39;1 5 34 30;1 5 34 31;1 5 34 32;",
   "1 5 34 33;1 5 34 34;1 5 34 35;1 5 34 36;1 5 34 37;1 5 34 38;1 5 34 39;1 5 35 30;1 5 31 6708;",
   "1 5 32 6708;1 5 33 6708;1 5 34 6708;1 5 35 6708;1 5 36 6708;1 5 37 6708;1 5 38 6708;",
   "1 5 39 6708;1 5 31 30 6708;1 5 31 31 6708;1 5 31 32 6708;1 5 68 67;1 5 65 72 67;1 5 65 76;",
   "1 5 6c 74 64;1 5 30a2;1 5 30a4;1 5 30a6;1 5 30a8;2 4 22a;1 5 30ad;1 5 30af;1 5 30b1;1 5 30b3;",
   "1 5 30b5;1 5 30b7;1 5 30b9;1 5 30bb;1 5 30bd;1 5 30bf;1 5 30c1;1 5 30c4;1 5 30c6;1 5 30c8;",
   "6 4 21a;1 5 30d2;1 5 30d5;1 5 30d8;1 5 30db;5 4 210;1 5 30e4;1 5 30e6;6 4 20d;4 4 20c;",
   "1 5 4ee4 548c;1 5 30a2 30d1 30fc 30c8;1 5 30a2 30eb 30d5 30a1;1 5 30a2 30f3 30da 30a2;",
   "1 5 30a2 30fc 30eb;1 5 30a4 30cb 30f3 30b0;1 5 30a4 30f3 30c1;1 5 30a6 30a9 30f3;",
   "1 5 30a8 30b9 30af 30fc 30c9;1 5 30a8 30fc 30ab 30fc;1 5 30aa 30f3 30b9;1 5 30aa 30fc 30e0;",
   "1 5 30ab 30a4 30ea;1 5 30ab 30e9 30c3 30c8;1 5 30ab 30ed 30ea 30fc;1 5 30ac 30ed 30f3;",
   "1 5 30ac 30f3 30de;1 5 30ae 30ac;1 5 30ae 30cb 30fc;1 5 30ad 30e5 30ea 30fc;",
   "1 5 30ae 30eb 30c0 30fc;1 5 30ad 30ed;1 5 30ad 30ed 30b0 30e9 30e0;",
   "1 5 30ad 30ed 30e1 30fc 30c8 30eb;1 5 30ad 30ed 30ef 30c3 30c8;1 5 30b0 30e9 30e0;",
   "1 5 30b0 30e9 30e0 30c8 30f3;1 5 30af 30eb 30bc 30a4 30ed;1 5 30af 30ed 30fc 30cd;",
   "1 5 30b1 30fc 30b9;1 5 30b3 30eb 30ca;1 5 30b3 30fc 30dd;1 5 30b5 30a4 30af 30eb;",
   "1 5 30b5 30f3 30c1 30fc 30e0;1 5 30b7 30ea 30f3 30b0;1 5 30bb 30f3 30c1;1 5 30bb 30f3 30c8;",
   "1 5 30c0 30fc 30b9;1 5 30c7 30b7;1 5 30c9 30eb;1 5 30c8 30f3;1 5 30ca 30ce;1 5 30ce 30c3 30c8;",
   "1 5 30cf 30a4 30c4;1 5 30d1 30fc 30bb 30f3 30c8;1 5 30d1 30fc 30c4;1 5 30d0 30fc 30ec 30eb;",
   "1 5 30d4 30a2 30b9 30c8 30eb;1 5 30d4 30af 30eb;1 5 30d4 30b3;1 5 30d3 30eb;",
   "1 5 30d5 30a1 30e9 30c3 30c9;1 5 30d5 30a3 30fc 30c8;1 5 30d6 30c3 30b7 30a7 30eb;",
   "1 5 30d5 30e9 30f3;1 5 30d8 30af 30bf 30fc 30eb;1 5 30da 30bd;1 5 30da 30cb 30d2;",
   "1 5 30d8 30eb 30c4;1 5 30da 30f3 30b9;1 5 30da 30fc 30b8;1 5 30d9 30fc 30bf;",
   "1 5 30dd 30a4 30f3 30c8;1 5 30dc 30eb 30c8;1 5 30db 30f3;1 5 30dd 30f3 30c9;",
   "1 5 30db 30fc 30eb;1 5 30db 30fc 30f3;1 5 30de 30a4 30af 30ed;1 5 30de 30a4 30eb;",
   "1 5 30de 30c3 30cf;1 5 30de 30eb 30af;1 5 30de 30f3 30b7 30e7 30f3;1 5 30df 30af 30ed 30f3;",
   "1 5 30df 30ea;1 5 30df 30ea 30d0 30fc 30eb;1 5 30e1 30ac;1 5 30e1 30ac 30c8 30f3;",
   "1 5 30e1 30fc 30c8 30eb;1 5 30e4 30fc 30c9;1 5 30e4 30fc 30eb;1 5 30e6 30a2 30f3;",
   "1 5 30ea 30c3 30c8 30eb;1 5 30ea 30e9;1 5 30eb 30d4 30fc;1 5 30eb 30fc 30d6 30eb;",
   "1 5 30ec 30e0;1 5 30ec 30f3 30c8 30b2 30f3;1 5 30ef 30c3 30c8;1 5 30 70b9;1 5 31 70b9;",
   "1 5 32 70b9;1 5 33 70b9;1 5 34 70b9;1 5 35 70b9;1 5 36 70b9;1 5 37 70b9;1 5 38 70b9;",
   "1 5 39 70b9;1 5 31 30 70b9;1 5 31 31 70b9;1 5 31 32 70b9;1 5 31 33 70b9;1 5 31 34 70b9;",
   "1 5 31 35 70b9;1 5 31 36 70b9;1 5 31 37 70b9;1 5 31 38 70b9;1 5 31 39 70b9;1 5 32 30 70b9;",
   "1 5 32 31 70b9;1 5 32 32 70b9;1 5 32 33 70b9;1 5 32 34 70b9;1 5 68 70 61;1 5 64 61;1 5 61 75;",
   "1 5 62 61 72;1 5 6f 76;1 5 70 63;1 5 64 6d;1 5 64 6d 32;1 5 64 6d 33;1 5 69 75;1 5 5e73 6210;",
   "1 5 662d 548c;1 5 5927 6b63;1 5 660e 6cbb;1 5 682a 5f0f 4f1a 793e;1 5 70 61;1 5 6e 61;",
   "1 5 3bc 61;1 5 6d 61;1 5 6b 61;1 5 6b 62;1 5 6d 62;1 5 67 62;1 5 63 61 6c;1 5 6b 63 61 6c;",
   "1 5 70 66;1 5 6e 66;1 5 3bc 66;1 5 3bc 67;1 5 6d 67;1 5 6b 67;1 5 68 7a;1 5 6b 68 7a;",
   "1 5 6d 68 7a;1 5 67 68 7a;1 5 74 68 7a;1 5 3bc 6c;1 5 6d 6c;1 5 64 6c;1 5 6b 6c;1 5 66 6d;",
   "1 5 6e 6d;1 5 3bc 6d;1 5 6d 6d;1 5 63 6d;1 5 6b 6d;1 5 6d 6d 32;1 5 63 6d 32;1 5 6d 32;",
   "1 5 6b 6d 32;1 5 6d 6d 33;1 5 63 6d 33;1 5 6d 33;1 5 6b 6d 33;1 5 6d 2215 73;",
   "1 5 6d 2215 73 32;1 5 70 61;1 5 6b 70 61;1 5 6d 70 61;1 5 67 70 61;1 5 72 61 64;",
   "1 5 72 61 64 2215 73;1 5 72 61 64 2215 73 32;1 5 70 73;1 5 6e 73;1 5 3bc 73;1 5 6d 73;",
   "1 5 70 76;1 5 6e 76;1 5 3bc 76;1 5 6d 76;1 5 6b 76;1 5 6d 76;1 5 70 77;1 5 6e 77;1 5 3bc 77;",
   "1 5 6d 77;1 5 6b 77;1 5 6d 77;1 5 6b 3c9;1 5 6d 3c9;1 2;1 5 62 71;1 5 63 63;1 5 63 64;",
   "1 5 63 2215 6b 67;1 2;1 5 64 62;1 5 67 79;1 5 68 61;1 5 68 70;1 5 69 6e;1 5 6b 6b;1 5 6b 6d;",
   "1 5 6b 74;1 5 6c 6d;1 5 6c 6e;1 5 6c 6f 67;1 5 6c 78;1 5 6d 62;1 5 6d 69 6c;1 5 6d 6f 6c;",
   "1 5 70 68;1 2;1 5 70 70 6d;1 5 70 72;1 5 73 72;1 5 73 76;1 5 77 62;1 5 76 2215 6d;",
   "1 5 61 2215 6d;1 5 31 65e5;1 5 32 65e5;1 5 33 65e5;1 5 34 65e5;1 5 35 65e5;1 5 36 65e5;",
   "1 5 37 65e5;1 5 38 65e5;1 5 39 65e5;1 5 31 30 65e5;1 5 31 31 65e5;1 5 31 32 65e5;",
   "1 5 31 33 65e5;1 5 31 34 65e5;1 5 31 35 65e5;1 5 31 36 65e5;1 5 31 37 65e5;1 5 31 38 65e5;",
   "1 5 31 39 65e5;1 5 32 30 65e5;1 5 32 31 65e5;1 5 32 32 65e5;1 5 32 33 65e5;1 5 32 34 65e5;",
   "1 5 32 35 65e5;1 5 32 36 65e5;1 5 32 37 65e5;1 5 32 38 65e5;1 5 32 39 65e5;1 5 33 30 65e5;",
   "1 5 33 31 65e5;1 5 67 61 6c;708d 0;3 2;37 0;9 2;15c 0;14 2;2e 6;12 0;1c 6;1 5 44a;1 5 44c;",
   "5a 0;8 2;22 0;e 6;2 0;3e 6;1 5 a76f;8 0;4 6;1 5 1d79;a 6;3 0;1 5 a78c;1 0;1 5 265;2 0;4 6;2 0;",
   "14 6;1 5 266;1 5 25c;1 5 261;1 5 26c;1 5 26a;1 0;1 5 29e;1 5 287;1 5 29d;1 5 ab53;10 6;",
   "1 5 a794;1 5 282;1 5 1d8e;4 6;1 5 264;10 6;1 5 19b;14 2;1 5 73;1 5 63;1 5 66;1 5 71;1 5 a7f6;",
   "2 0;1 5 127;1 5 153;33 0;3 2;a 0;6 2;38 0;8 2;46 0;8 2;c 0;6 2;74 0;b 2;1e 0;3 2;4e 0;1 2;b 0;",
   "4 2;21 0;1 2;37 0;9 2;e 0;2 2;a 0;2 2;67 0;18 2;1c 0;a 2;6 0;2 2;6 0;2 2;6 0;9 2;7 0;1 2;7 0;",
   "1 2;2c 0;1 5 a727;1 5 ab37;1 5 26b;1 5 ab52;9 0;1 5 28d;2 0;4 2;50 4 97d0;2e 0;2 2;a 0;6 2;",
   "2ba4 0;c 2;17 0;4 2;31 0;2104 2;1 5 8c48;1 5 66f4;1 5 8eca;1 5 8cc8;1 5 6ed1;1 5 4e32;",
   "1 5 53e5;2 5 9f9c;1 5 5951;1 5 91d1;1 5 5587;1 5 5948;1 5 61f6;1 5 7669;1 5 7f85;1 5 863f;",
   "1 5 87ba;1 5 88f8;1 5 908f;1 5 6a02;1 5 6d1b;1 5 70d9;1 5 73de;1 5 843d;1 5 916a;1 5 99f1;",
   "1 5 4e82;1 5 5375;1 5 6b04;1 5 721b;1 5 862d;1 5 9e1e;1 5 5d50;1 5 6feb;1 5 85cd;1 5 8964;",
   "1 5 62c9;1 5 81d8;1 5 881f;1 5 5eca;1 5 6717;1 5 6d6a;1 5 72fc;1 5 90ce;1 5 4f86;1 5 51b7;",
   "1 5 52de;1 5 64c4;1 5 6ad3;1 5 7210;1 5 76e7;1 5 8001;1 5 8606;1 5 865c;1 5 8def;1 5 9732;",
   "1 5 9b6f;1 5 9dfa;1 5 788c;1 5 797f;1 5 7da0;1 5 83c9;1 5 9304;1 5 9e7f;1 5 8ad6;1 5 58df;",
   "1 5 5f04;1 5 7c60;1 5 807e;1 5 7262;1 5 78ca;1 5 8cc2;1 5 96f7;1 5 58d8;1 5 5c62;1 5 6a13;",
   "1 5 6dda;1 5 6f0f;1 5 7d2f;1 5 7e37;1 5 964b;1 5 52d2;1 5 808b;1 5 51dc;1 5 51cc;1 5 7a1c;",
   "1 5 7dbe;1 5 83f1;1 5 9675;1 5 8b80;1 5 62cf;1 5 6a02;1 5 8afe;1 5 4e39;1 5 5be7;1 5 6012;",
   "1 5 7387;1 5 7570;1 5 5317;1 5 78fb;1 5 4fbf;1 5 5fa9;1 5 4e0d;1 5 6ccc;1 5 6578;1 5 7d22;",
   "1 5 53c3;1 5 585e;1 5 7701;1 5 8449;1 5 8aaa;1 5 6bba;1 5 8fb0;1 5 6c88;1 5 62fe;1 5 82e5;",
   "1 5 63a0;1 5 7565;1 5 4eae;1 5 5169;1 5 51c9;1 5 6881;1 5 7ce7;1 5 826f;1 5 8ad2;1 5 91cf;",
   "1 5 52f5;1 5 5442;1 5 5973;1 5 5eec;1 5 65c5;1 5 6ffe;1 5 792a;1 5 95ad;1 5 9a6a;1 5 9e97;",
   "1 5 9ece;1 5 529b;1 5 66c6;1 5 6b77;1 5 8f62;1 5 5e74;1 5 6190;1 5 6200;1 5 649a;1 5 6f23;",
   "1 5 7149;1 5 7489;1 5 79ca;1 5 7df4;1 5 806f;1 5 8f26;1 5 84ee;1 5 9023;1 5 934a;1 5 5217;",
   "1 5 52a3;1 5 54bd;1 5 70c8;1 5 88c2;1 5 8aaa;1 5 5ec9;1 5 5ff5;1 5 637b;1 5 6bae;1 5 7c3e;",
   "1 5 7375;1 5 4ee4;1 5 56f9;1 5 5be7;1 5 5dba;1 5 601c;1 5 73b2;1 5 7469;1 5 7f9a;1 5 8046;",
   "1 5 9234;1 5 96f6;1 5 9748;1 5 9818;1 5 4f8b;1 5 79ae;1 5 91b4;1 5 96b8;1 5 60e1;1 5 4e86;",
   "1 5 50da;1 5 5bee;1 5 5c3f;1 5 6599;1 5 6a02;1 5 71ce;1 5 7642;1 5 84fc;1 5 907c;1 5 9f8d;",
   "1 5 6688;1 5 962e;1 5 5289;1 5 677b;1 5 67f3;1 5 6d41;1 5 6e9c;1 5 7409;1 5 7559;1 5 786b;",
   "1 5 7d10;1 5 985e;1 5 516d;1 5 622e;1 5 9678;1 5 502b;1 5 5d19;1 5 6dea;1 5 8f2a;1 5 5f8b;",
   "1 5 6144;1 5 6817;1 5 7387;1 5 9686;1 5 5229;1 5 540f;1 5 5c65;1 5 6613;1 5 674e;1 5 68a8;",
   "1 5 6ce5;1 5 7406;1 5 75e2;1 5 7f79;1 5 88cf;1 5 88e1;1 5 91cc;1 5 96e2;1 5 533f;1 5 6eba;",
   "1 5 541d;1 5 71d0;1 5 7498;1 5 85fa;1 5 96a3;1 5 9c57;1 5 9e9f;1 5 6797;1 5 6dcb;1 5 81e8;",
   "1 5 7acb;1 5 7b20;1 5 7c92;1 5 72c0;1 5 7099;1 5 8b58;1 5 4ec0;1 5 8336;1 5 523a;1 5 5207;",
   "1 5 5ea6;1 5 62d3;1 5 7cd6;1 5 5b85;1 5 6d1e;1 5 66b4;1 5 8f3b;1 5 884c;1 5 964d;1 5 898b;",
   "1 5 5ed3;1 5 5140;1 5 55c0;2 0;1 5 585a;1 0;1 5 6674;2 0;1 5 51de;1 5 732a;1 5 76ca;1 5 793c;",
   "1 5 795e;1 5 7965;1 5 798f;1 5 9756;1 5 7cbe;1 5 7fbd;1 0;1 5 8612;1 0;1 5 8af8;2 0;1 5 9038;",
   "1 5 90fd;3 0;1 5 98ef;1 5 98fc;1 5 9928;1 5 9db4;1 5 90de;1 5 96b7;1 5 4fae;1 5 50e7;1 5 514d;",
   "1 5 52c9;1 5 52e4;1 5 5351;1 5 559d;1 5 5606;1 5 5668;1 5 5840;1 5 58a8;1 5 5c64;1 5 5c6e;",
   "1 5 6094;1 5 6168;1 5 618e;1 5 61f2;1 5 654f;1 5 65e2;1 5 6691;1 5 6885;1 5 6d77;1 5 6e1a;",
   "1 5 6f22;1 5 716e;1 5 722b;1 5 7422;1 5 7891;1 5 793e;1 5 7949;1 5 7948;1 5 7950;1 5 7956;",
   "1 5 795d;2 4 80c5;1 5 7a40;1 5 7a81;1 5 7bc0;1 5 7df4;1 5 7e09;1 5 7e41;1 5 7f72;1 5 8005;",
   "1 5 81ed;2 5 8279;1 5 8457;1 5 8910;1 5 8996;1 5 8b01;1 5 8b39;1 5 8cd3;1 5 8d08;1 5 8fb6;",
   "1 5 9038;1 5 96e3;1 5 97ff;1 5 983b;1 5 6075;1 5 242ee;1 5 8218;2 2;1 5 4e26;1 5 51b5;",
   "1 5 5168;1 5 4f80;1 5 5145;1 5 5180;1 5 52c7;1 5 52fa;1 5 559d;1 5 5555;1 5 5599;1 5 55e2;",
   "1 5 585a;1 5 58b3;1 5 5944;1 5 5954;1 5 5a62;1 5 5b28;1 5 5ed2;1 5 5ed9;1 5 5f69;1 5 5fad;",
   "1 5 60d8;1 5 614e;1 5 6108;1 5 618e;1 5 6160;1 5 61f2;1 5 6234;1 5 63c4;1 5 641c;1 5 6452;",
   "1 5 6556;1 5 6674;1 5 6717;1 5 671b;1 5 6756;1 5 6b79;1 5 6bba;1 5 6d41;1 5 6edb;1 5 6ecb;",
   "1 5 6f22;1 5 701e;1 5 716e;1 5 77a7;1 5 7235;1 5 72af;1 5 732a;1 5 7471;1 5 7506;1 5 753b;",
   "1 5 761d;1 5 761f;1 5 76ca;1 5 76db;1 5 76f4;1 5 774a;1 5 7740;1 5 78cc;1 5 7ab1;1 5 7bc0;",
   "1 5 7c7b;1 5 7d5b;1 5 7df4;1 5 7f3e;1 5 8005;1 5 8352;1 5 83ef;1 5 8779;1 5 8941;1 5 8986;",
   "1 5 8996;1 5 8abf;1 5 8af8;1 5 8acb;1 5 8b01;1 5 8afe;1 5 8aed;1 5 8b39;1 5 8b8a;1 5 8d08;",
   "1 5 8f38;1 5 9072;1 5 9199;1 5 9276;1 5 967c;1 5 96e3;1 5 9756;1 5 97db;1 5 97ff;1 5 980b;",
   "1 5 983b;1 5 9b12;1 5 9f9c;1 5 2284a;1 5 22844;1 5 233d5;1 5 3b9d;1 5 4018;1 5 4039;1 5 25249;",
   "1 5 25cd0;1 5 27ed3;1 5 9f43;1 5 9f8e;26 2;1 5 66 66;1 5 66 69;1 5 66 6c;1 5 66 66 69;",
   "1 5 66 66 6c;2 5 73 74;c 2;1 5 574 576;1 5 574 565;1 5 574 56b;1 5 57e 576;1 5 574 56d;5 2;",
   "1 5 5d9 5b4;1 0;1 5 5f2 5b7;1 5 5e2;1 5 5d0;2 4 f54f;3 4 f549;1 5 5e8;1 5 5ea;1 5 2b;",
   "1 5 5e9 5c1;1 5 5e9 5c2;1 5 5e9 5bc 5c1;1 5 5e9 5bc 5c2;1 5 5d0 5b7;1 5 5d0 5b8;1 5 5d0 5bc;",
   "1 5 5d1 5bc;1 5 5d2 5bc;1 5 5d3 5bc;1 5 5d4 5bc;1 5 5d5 5bc;1 5 5d6 5bc;1 2;1 5 5d8 5bc;",
   "1 5 5d9 5bc;1 5 5da 5bc;1 5 5db 5bc;1 5 5dc 5bc;1 2;1 5 5de 5bc;1 2;1 5 5e0 5bc;1 5 5e1 5bc;",
   "1 2;1 5 5e3 5bc;1 5 5e4 5bc;1 2;1 5 5e6 5bc;1 5 5e7 5bc;1 5 5e8 5bc;1 5 5e9 5bc;1 5 5ea 5bc;",
   "1 5 5d5 5b9;1 5 5d1 5bf;1 5 5db 5bf;1 5 5e4 5bf;1 5 5d0 5dc;2 5 671;4 5 67b;4 5 67e;4 5 680;",
   "4 5 67a;4 5 67f;4 5 679;4 5 6a4;4 5 6a6;4 5 684;4 5 683;4 5 686;4 5 687;2 5 68d;2 5 68c;",
   "2 5 68e;2 5 688;2 5 698;2 5 691;4 5 6a9;4 5 6af;4 5 6b3;4 5 6b1;2 5 6ba;4 5 6bb;2 5 6c0;",
   "4 5 6c1;4 5 6be;2 5 6d2;2 5 6d3;21 0;4 5 6ad;2 5 6c7;2 5 6c6;2 5 6c8;1 5 6c7 674;2 5 6cb;",
   "2 5 6c5;2 5 6c9;4 5 6d0;2 5 649;2 5 626 627;2 5 626 6d5;2 5 626 648;2 5 626 6c7;2 5 626 6c6;",
   "2 5 626 6c8;3 5 626 6d0;3 5 626 649;4 5 6cc;1 5 626 62c;1 5 626 62d;1 5 626 645;1 5 626 649;",
   "1 5 626 64a;1 5 628 62c;1 5 628 62d;1 5 628 62e;1 5 628 645;1 5 628 649;1 5 628 64a;",
   "1 5 62a 62c;1 5 62a 62d;1 5 62a 62e;1 5 62a 645;1 5 62a 649;1 5 62a 64a;1 5 62b 62c;",
   "1 5 62b 645;1 5 62b 649;1 5 62b 64a;1 5 62c 62d;1 5 62c 645;1 5 62d 62c;1 5 62d 645;",
   "1 5 62e 62c;1 5 62e 62d;1 5 62e 645;1 5 633 62c;1 5 633 62d;1 5 633 62e;1 5 633 645;",
   "1 5 635 62d;1 5 635 645;1 5 636 62c;1 5 636 62d;1 5 636 62e;1 5 636 645;1 5 637 62d;",
   "1 5 637 645;1 5 638 645;1 5 639 62c;1 5 639 645;1 5 63a 62c;1 5 63a 645;1 5 641 62c;",
   "1 5 641 62d;1 5 641 62e;1 5 641 645;1 5 641 649;1 5 641 64a;1 5 642 62d;1 5 642 645;",
   "1 5 642 649;1 5 642 64a;1 5 643 627;1 5 643 62c;1 5 643 62d;1 5 643 62e;1 5 643 644;",
   "1 5 643 645;1 5 643 649;1 5 643 64a;1 5 644 62c;1 5 644 62d;1 5 644 62e;1 5 644 645;",
   "1 5 644 649;1 5 644 64a;1 5 645 62c;1 5 645 62d;1 5 645 62e;1 5 645 645;1 5 645 649;",
   "1 5 645 64a;1 5 646 62c;1 5 646 62d;1 5 646 62e;1 5 646 645;1 5 646 649;1 5 646 64a;",
   "1 5 647 62c;1 5 647 645;1 5 647 649;1 5 647 64a;1 5 64a 62c;1 5 64a 62d;1 5 64a 62e;",
   "1 5 64a 645;1 5 64a 649;1 5 64a 64a;1 5 630 670;1 5 631 670;1 5 649 670;1 5 20 64c 651;",
   "1 5 20 64d 651;1 5 20 64e 651;1 5 20 64f 651;1 5 20 650 651;1 5 20 651 670;1 5 626 631;",
   "1 5 626 632;1 5 626 645;1 5 626 646;1 5 626 649;1 5 626 64a;1 5 628 631;1 5 628 632;",
   "1 5 628 645;1 5 628 646;1 5 628 649;1 5 628 64a;1 5 62a 631;1 5 62a 632;1 5 62a 645;",
   "1 5 62a 646;1 5 62a 649;1 5 62a 64a;1 5 62b 631;1 5 62b 632;1 5 62b 645;1 5 62b 646;",
   "1 5 62b 649;1 5 62b 64a;1 5 641 649;1 5 641 64a;1 5 642 649;1 5 642 64a;1 5 643 627;",
   "1 5 643 644;1 5 643 645;1 5 643 649;1 5 643 64a;1 5 644 645;1 5 644 649;1 5 644 64a;",
   "1 5 645 627;1 5 645 645;1 5 646 631;1 5 646 632;1 5 646 645;1 5 646 646;1 5 646 649;",
   "1 5 646 64a;1 5 649 670;1 5 64a 631;1 5 64a 632;1 5 64a 645;1 5 64a 646;1 5 64a 649;",
   "1 5 64a 64a;1 5 626 62c;1 5 626 62d;1 5 626 62e;1 5 626 645;1 5 626 647;1 5 628 62c;",
   "1 5 628 62d;1 5 628 62e;1 5 628 645;1 5 628 647;1 5 62a 62c;1 5 62a 62d;1 5 62a 62e;",
   "1 5 62a 645;1 5 62a 647;1 5 62b 645;1 5 62c 62d;1 5 62c 645;1 5 62d 62c;1 5 62d 645;",
   "1 5 62e 62c;1 5 62e 645;1 5 633 62c;1 5 633 62d;1 5 633 62e;1 5 633 645;1 5 635 62d;",
   "1 5 635 62e;1 5 635 645;1 5 636 62c;1 5 636 62d;1 5 636 62e;1 5 636 645;1 5 637 62d;",
   "1 5 638 645;1 5 639 62c;1 5 639 645;1 5 63a 62c;1 5 63a 645;1 5 641 62c;1 5 641 62d;",
   "1 5 641 62e;1 5 641 645;1 5 642 62d;1 5 642 645;1 5 643 62c;1 5 643 62d;1 5 643 62e;",
   "1 5 643 644;1 5 643 645;1 5 644 62c;1 5 644 62d;1 5 644 62e;1 5 644 645;1 5 644 647;",
   "1 5 645 62c;1 5 645 62d;1 5 645 62e;1 5 645 645;1 5 646 62c;1 5 646 62d;1 5 646 62e;",
   "1 5 646 645;1 5 646 647;1 5 647 62c;1 5 647 645;1 5 647 670;1 5 64a 62c;1 5 64a 62d;",
   "1 5 64a 62e;1 5 64a 645;1 5 64a 647;1 5 626 645;1 5 626 647;1 5 628 645;1 5 628 647;",
   "1 5 62a 645;1 5 62a 647;1 5 62b 645;1 5 62b 647;1 5 633 645;1 5 633 647;1 5 634 645;",
   "1 5 634 647;1 5 643 644;1 5 643 645;1 5 644 645;1 5 646 645;1 5 646 647;1 5 64a 645;",
   "1 5 64a 647;1 5 640 64e 651;1 5 640 64f 651;1 5 640 650 651;1 5 637 649;1 5 637 64a;",
   "1 5 639 649;1 5 639 64a;1 5 63a 649;1 5 63a 64a;1 5 633 649;1 5 633 64a;1 5 634 649;",
   "1 5 634 64a;1 5 62d 649;1 5 62d 64a;1 5 62c 649;1 5 62c 64a;1 5 62e 649;1 5 62e 64a;",
   "1 5 635 649;1 5 635 64a;1 5 636 649;1 5 636 64a;1 5 634 62c;1 5 634 62d;1 5 634 62e;",
   "1 5 634 645;1 5 634 631;1 5 633 631;1 5 635 631;1 5 636 631;1 5 637 649;1 5 637 64a;",
   "1 5 639 649;1 5 639 64a;1 5 63a 649;1 5 63a 64a;1 5 633 649;1 5 633 64a;1 5 634 649;",
   "1 5 634 64a;1 5 62d 649;1 5 62d 64a;1 5 62c 649;1 5 62c 64a;1 5 62e 649;1 5 62e 64a;",
   "1 5 635 649;1 5 635 64a;1 5 636 649;1 5 636 64a;1 5 634 62c;1 5 634 62d;1 5 634 62e;",
   "1 5 634 645;1 5 634 631;1 5 633 631;1 5 635 631;1 5 636 631;1 5 634 62c;1 5 634 62d;",
   "1 5 634 62e;1 5 634 645;1 5 633 647;1 5 634 647;1 5 637 645;1 5 633 62c;1 5 633 62d;",
   "1 5 633 62e;1 5 634 62c;1 5 634 62d;1 5 634 62e;1 5 637 645;1 5 638 645;2 5 627 64b;12 0;",
   "1 5 62a 62c 645;2 5 62a 62d 62c;1 5 62a 62d 645;1 5 62a 62e 645;1 5 62a 645 62c;",
   "1 5 62a 645 62d;1 5 62a 645 62e;2 5 62c 645 62d;1 5 62d 645 64a;1 5 62d 645 649;",
   "1 5 633 62d 62c;1 5 633 62c 62d;1 5 633 62c 649;2 5 633 645 62d;1 5 633 645 62c;",
   "2 5 633 645 645;2 5 635 62d 62d;1 5 635 645 645;2 5 634 62d 645;1 5 634 62c 64a;",
   "2 5 634 645 62e;2 5 634 645 645;1 5 636 62d 649;2 5 636 62e 645;2 5 637 645 62d;",
   "1 5 637 645 645;1 5 637 645 64a;1 5 639 62c 645;2 5 639 645 645;1 5 639 645 649;",
   "1 5 63a 645 645;1 5 63a 645 64a;1 5 63a 645 649;2 5 641 62e 645;1 5 642 645 62d;",
   "1 5 642 645 645;1 5 644 62d 645;1 5 644 62d 64a;1 5 644 62d 649;2 5 644 62c 62c;",
   "2 5 644 62e 645;2 5 644 645 62d;1 5 645 62d 62c;1 5 645 62d 645;1 5 645 62d 64a;",
   "1 5 645 62c 62d;1 5 645 62c 645;1 5 645 62e 62c;1 5 645 62e 645;2 0;1 5 645 62c 62e;",
   "1 5 647 645 62c;1 5 647 645 645;1 5 646 62d 645;1 5 646 62d 649;2 5 646 62c 645;",
   "1 5 646 62c 649;1 5 646 645 64a;1 5 646 645 649;2 5 64a 645 645;1 5 628 62e 64a;",
   "1 5 62a 62c 64a;1 5 62a 62c 649;1 5 62a 62e 64a;1 5 62a 62e 649;1 5 62a 645 64a;",
   "1 5 62a 645 649;1 5 62c 645 64a;1 5 62c 62d 649;1 5 62c 645 649;1 5 633 62e 649;",
   "1 5 635 62d 64a;1 5 634 62d 64a;1 5 636 62d 64a;1 5 644 62c 64a;1 5 644 645 64a;",
   "1 5 64a 62d 64a;1 5 64a 62c 64a;1 5 64a 645 64a;1 5 645 645 64a;1 5 642 645 64a;",
   "1 5 646 62d 64a;1 5 642 645 62d;1 5 644 62d 645;1 5 639 645 64a;1 5 643 645 64a;",
   "1 5 646 62c 62d;1 5 645 62e 64a;1 5 644 62c 645;1 5 643 645 645;1 5 644 62c 645;",
   "1 5 646 62c 62d;1 5 62c 62d 64a;1 5 62d 62c 64a;1 5 645 62c 64a;1 5 641 645 64a;",
   "1 5 628 62d 64a;1 5 643 645 645;1 5 639 62c 645;1 5 635 645 645;1 5 633 62e 64a;",
   "1 5 646 62c 64a;8 0;20 2;1 5 635 644 6d2;1 5 642 644 6d2;1 5 627 644 644 647;",
   "1 5 627 643 628 631;1 5 645 62d 645 62f;1 5 635 644 639 645;1 5 631 633 648 644;",
   "1 5 639 644 64a 647;1 5 648 633 644 645;1 5 635 644 649;",
   "1 5 635 644 649 20 627 644 644 647 20 639 644 64a 647 20 648 633 644 645;",
   "1 5 62c 644 20 62c 644 627 644 647;1 5 631 6cc 627 644;3 0;10 1;1 5 2c;1 5 3001;1 2;2 4 fdd9;",
   "1 5 21;1 5 3f;2 4 ce01;7 2;10 0;1 2;1 5 2014;1 5 2013;2 5 5f;2 4 fe0d;1 5 7b;1 5 7d;2 4 ce25;",
   "2 4 ce2b;2 4 ce33;2 4 ce37;4 4 ce35;2 0;1 5 5b;1 5 5d;4 5 20 305;3 5 5f;1 5 2c;1 5 3001;2 2;",
   "1 5 3b;1 5 3a;1 5 3f;1 5 21;1 5 2014;2 4 fe31;1 5 7b;1 5 7d;2 4 ce49;1 5 23;1 5 26;2 4 fe37;",
   "1 5 2d;1 5 3c;1 5 3e;1 5 3d;1 2;1 5 5c;2 4 fe45;1 5 40;4 2;1 5 20 64b;1 5 640 64b;1 5 20 64c;",
   "1 0;1 5 20 64d;1 2;1 5 20 64e;1 5 640 64e;1 5 20 64f;1 5 640 64f;1 5 20 650;1 5 640 650;",
   "1 5 20 651;1 5 640 651;1 5 20 652;1 5 640 652;2 4 f85f;2 4 f860;2 4 f861;2 4 f862;2 4 f863;",
   "3 5 626;2 5 627;4 5 628;2 5 629;4 5 62a;4 5 62b;4 5 62c;4 5 62d;4 5 62e;2 5 62f;2 5 630;",
   "2 5 631;2 5 632;4 5 633;4 5 634;4 5 635;4 5 636;4 5 637;4 5 638;4 5 639;4 5 63a;4 5 641;",
   "4 5 642;4 5 643;4 5 644;4 5 645;4 5 646;4 5 647;2 5 648;2 5 649;4 5 64a;2 5 644 622;",
   "2 5 644 623;2 5 644 625;2 5 644 627;2 2;1 1;1 2;20 4 fee0;1a 4 fec0;24 4 fee0;2 4 d5da;1 5 2e;",
   "2 4 cf56;1 5 3001;1 5 30fb;1 5 30f2;1 5 30a1;1 5 30a3;1 5 30a5;1 5 30a7;1 5 30a9;1 5 30e3;",
   "1 5 30e5;1 5 30e7;1 5 30c3;1 5 30fc;1 5 30a2;1 5 30a4;1 5 30a6;1 5 30a8;2 4 cecb;1 5 30ad;",
   "1 5 30af;1 5 30b1;1 5 30b3;1 5 30b5;1 5 30b7;1 5 30b9;1 5 30bb;1 5 30bd;1 5 30bf;1 5 30c1;",
   "1 5 30c4;1 5 30c6;1 5 30c8;6 4 cebb;1 5 30d2;1 5 30d5;1 5 30d8;1 5 30db;5 4 ceb1;1 5 30e4;",
   "1 5 30e6;6 4 ceae;1 5 30ef;1 5 30f3;2 4 cf05;1 1;2 4 eea1;1 5 11aa;1 5 1102;2 4 edf9;3 4 eea4;",
   "6 4 edfa;1 5 111a;3 4 eeab;1 5 1121;a 4 eeac;3 2;6 4 ee61;2 2;6 4 ee63;2 2;6 4 ee65;2 2;",
   "3 4 ee67;3 2;2 4 ff3e;1 5 ac;1 5 20 304;1 5 a6;1 5 a5;1 5 20a9;1 2;1 5 2502;4 4 de59;1 5 25a0;",
   "1 5 25cb;11 2;c 0;1 2;1a 0;1 2;13 0;1 2;2 0;1 2;f 0;2 2;e 0;22 2;7b 0;5 2;3 0;4 2;2d 0;3 2;",
   "58 0;1 2;d 0;3 2;1 0;2f 2;2e 0;82 2;1d 0;3 2;31 0;f 2;1c 0;4 2;24 0;9 2;1e 0;5 2;2b 0;5 2;",
   "1e 0;1 2;25 0;4 2;e 0;2a 2;28 3 28;76 0;2 2;a 0;6 2;24 3 28;4 2;24 0;4 2;28 0;8 2;34 0;b 2;",
   "1 0;b 3 27;1 2;f 3 27;1 2;7 3 27;1 2;2 3 27;1 2;b 0;1 2;f 0;1 2;7 0;1 2;2 0;3 2;34 0;c 2;",
   "137 0;9 2;16 0;a 2;8 0;18 2;1 0;2 4 104b1;1 5 e6;1 5 299;1 5 253;1 2;1 5 2a3;1 5 ab66;1 5 2a5;",
   "1 5 2a4;2 4 10535;1 5 1d91;1 5 258;1 5 25e;1 5 2a9;1 5 264;1 5 262;1 5 260;1 5 29b;1 5 127;",
   "1 5 29c;1 5 267;1 5 284;2 4 104ef;1 5 26c;1 5 1df04;1 5 a78e;1 5 26e;1 5 1df05;1 5 28e;",
   "1 5 1df06;1 5 f8;2 4 1052d;1 5 71;1 5 27a;1 5 1df08;2 4 1052b;1 5 280;1 5 2a8;1 5 2a6;",
   "1 5 ab67;1 5 2a7;1 5 288;1 5 2c71;1 2;1 5 28f;2 4 10512;1 5 298;3 4 105f6;1 5 1df0a;1 5 1df1e;",
   "45 2;6 0;2 2;1 0;1 2;2c 0;1 2;2 0;3 2;1 0;2 2;17 0;1 2;48 0;8 2;9 0;30 2;13 0;1 2;2 0;5 2;",
   "21 0;3 2;1b 0;5 2;1b 0;26 2;38 0;4 2;14 0;2 2;32 0;1 2;2 0;5 2;8 0;1 2;3 0;1 2;1d 0;2 2;3 0;",
   "4 2;a 0;7 2;9 0;7 2;40 0;20 2;27 0;4 2;c 0;9 2;36 0;3 2;1d 0;2 2;1b 0;5 2;1a 0;7 2;4 0;c 2;",
   "7 0;50 2;49 0;37 2;33 3 40;d 2;33 0;7 2;2e 0;8 2;a 0;6 2;10 0;16 3 20;3 2;1d 0;8 2;2 0;d0 2;",
   "1f 0;1 2;2a 0;1 2;3 0;2 2;2 0;10 2;6 0;8 2;9 0;21 2;2e 0;8 2;2a 0;16 2;1a 0;26 2;1c 0;14 2;",
   "17 0;9 2;4e 0;4 2;24 0;9 2;3e 0;1 2;5 0;d 2;19 0;7 2;a 0;6 2;35 0;1 2;12 0;8 2;27 0;9 2;60 0;",
   "1 2;14 0;b 2;12 0;1 2;2f 0;3e 2;7 0;1 2;1 0;1 2;4 0;1 2;f 0;1 2;b 0;6 2;3b 0;5 2;a 0;6 2;4 0;",
   "1 2;8 0;2 2;2 0;2 2;16 0;1 2;7 0;1 2;2 0;1 2;5 0;1 2;a 0;2 2;2 0;2 2;3 0;2 2;1 0;6 2;1 0;5 2;",
   "7 0;2 2;7 0;3 2;5 0;b 2;a 0;1 2;1 0;2 2;1 0;1 2;26 0;1 2;a 0;1 2;1 0;2 2;1 0;1 2;4 0;1 2;a 0;",
   "1 2;2 0;8 2;2 0;1d 2;5c 0;1 2;5 0;1e 2;48 0;8 2;a 0;a6 2;36 0;2 2;26 0;22 2;45 0;b 2;a 0;6 2;",
   "d 0;13 2;3a 0;6 2;a 0;6 2;14 0;1c 2;1b 0;2 2;f 0;4 2;17 0;b9 2;3c 0;64 2;20 3 20;33 0;c 2;8 0;",
   "2 2;1 0;2 2;8 0;1 2;2 0;1 2;1e 0;1 2;2 0;2 2;c 0;9 2;a 0;46 2;8 0;2 2;2e 0;2 2;b 0;1b 2;48 0;",
   "8 2;53 0;d 2;49 0;7 2;a 0;56 2;8 0;58 2;22 0;e 2;a 0;6 2;9 0;1 2;2d 0;1 2;e 0;a 2;1d 0;3 2;",
   "20 0;2 2;16 0;1 2;e 0;49 2;7 0;1 2;2 0;1 2;2c 0;3 2;1 0;1 2;2 0;1 2;9 0;8 2;a 0;6 2;6 0;1 2;",
   "2 0;1 2;25 0;1 2;2 0;1 2;6 0;7 2;a 0;6 2;2c 0;4 2;a 0;f6 2;19 0;7 2;11 0;1 2;29 0;3 2;1d 0;",
   "55 2;1 0;f 2;32 0;d 2;39b 0;66 2;6f 0;1 2;5 0;b 2;c4 0;a4c 2;63 0;d 2;430 0;10 2;16 0;a 2;",
   "f9b 0;5 2;247 0;1ab9 2;3a 0;6c6 2;239 0;7 2;1f 0;1 2;a 0;4 2;51 0;1 2;a 0;6 2;1e 0;2 2;6 0;",
   "a 2;46 0;a 2;a 0;1 2;7 0;1 2;15 0;5 2;13 0;1b0 2;3a 0;c6 2;20 3 20;3b 0;5 2;19 3 1b;2 2;19 0;",
   "2c 2;4b 0;4 2;39 0;7 2;11 0;40 2;5 0;b 2;7 0;9 2;1cd6 0;29 2;20 0;61 2;73 0;21fd 2;4 0;1 2;",
   "7 0;1 2;2 0;1 2;123 0;f 2;1 0;1d 2;3 0;2 2;1 0;e 2;4 0;8 2;18c 0;904 2;6b 0;5 2;d 0;3 2;9 0;",
   "7 2;a 0;2 2;4 0;4 1;f5c 2;d6 0;1a 4 1cc75;a 4 1ccc0;3 0;3 2;1b4 0;6 2;17 0;f 2;11 0;f 2;2e 0;",
   "2 2;17 0;9 2;74 0;3c 2;f6 0;a 2;27 0;2 2;35 0;1 5 1d157 1d165;1 5 1d158 1d165;",
   "1 5 1d158 1d165 1d16e;1 5 1d158 1d165 1d16f;1 5 1d158 1d165 1d170;1 5 1d158 1d165 1d171;",
   "1 5 1d158 1d165 1d172;e 0;8 1;40 0;1 5 1d1b9 1d165;1 5 1d1ba 1d165;1 5 1d1b9 1d165 1d16e;",
   "1 5 1d1ba 1d165 1d16e;1 5 1d1b9 1d165 1d16f;1 5 1d1ba 1d165 1d16f;2a 0;15 2;46 0;7a 2;14 0;",
   "c 2;14 0;c 2;57 0;9 2;19 0;87 2;1a 4 1d39f;1a 4 1d3b9;1a 4 1d3d3;7 4 1d3ed;1 2;12 4 1d3ed;",
   "1a 4 1d407;1a 4 1d421;1 5 61;1 2;2 4 1d43b;2 2;1 5 67;2 2;2 4 1d43b;2 2;4 4 1d43b;1 2;",
   "8 4 1d43b;4 4 1d455;1 2;1 5 66;1 2;7 4 1d455;1 2;b 4 1d455;1a 4 1d46f;1a 4 1d489;2 4 1d4a3;",
   "1 2;4 4 1d4a3;2 2;8 4 1d4a3;1 2;7 4 1d4a3;1 2;1a 4 1d4bd;2 4 1d4d7;1 2;4 4 1d4d7;1 2;",
   "5 4 1d4d7;1 2;1 5 6f;3 2;7 4 1d4d7;1 2;1a 4 1d4f1;1a 4 1d50b;1a 4 1d525;1a 4 1d53f;1a 4 1d559;",
   "1a 4 1d573;1a 4 1d58d;1a 4 1d5a7;1a 4 1d5c1;1a 4 1d5db;1a 4 1d5f5;1a 4 1d60f;1a 4 1d629;",
   "1 5 131;1 5 237;2 2;11 4 1d2f7;1 5 3b8;7 4 1d2f7;1 5 2207;11 4 1d311;2 5 3c3;6 4 1d311;",
   "1 5 2202;1 5 3b5;1 5 3b8;1 5 3ba;1 5 3c6;1 5 3c1;1 5 3c0;11 4 1d331;1 5 3b8;7 4 1d331;",
   "1 5 2207;11 4 1d34b;2 5 3c3;6 4 1d34b;1 5 2202;1 5 3b5;1 5 3b8;1 5 3ba;1 5 3c6;1 5 3c1;",
   "1 5 3c0;11 4 1d36b;1 5 3b8;7 4 1d36b;1 5 2207;11 4 1d385;2 5 3c3;6 4 1d385;1 5 2202;1 5 3b5;",
   "1 5 3b8;1 5 3ba;1 5 3c6;1 5 3c1;1 5 3c0;11 4 1d3a5;1 5 3b8;7 4 1d3a5;1 5 2207;11 4 1d3bf;",
   "2 5 3c3;6 4 1d3bf;1 5 2202;1 5 3b5;1 5 3b8;1 5 3ba;1 5 3c6;1 5 3c1;1 5 3c0;11 4 1d3df;1 5 3b8;",
   "7 4 1d3df;1 5 2207;11 4 1d3f9;2 5 3c3;6 4 1d3f9;1 5 2202;1 5 3b5;1 5 3b8;1 5 3ba;1 5 3c6;",
   "1 5 3c1;1 5 3c0;2 5 3dd;2 2;a 4 1d79e;a 4 1d7a8;a 4 1d7b2;a 4 1d7bc;a 4 1d7c6;28c 0;f 2;5 0;",
   "1 2;f 0;450 2;1f 0;6 2;6 0;d5 2;7 0;1 2;11 0;2 2;7 0;1 2;2 0;1 2;5 0;5 2;9 4 1dc00;3 4 1dbff;",
   "b 4 1dbfe;1 5 44b;2 4 1dbfb;1 5 a689;1 5 4d9;1 5 456;1 5 458;1 5 4e9;1 5 4af;1 5 4cf;",
   "9 4 1dc21;2 4 1dc20;2 4 1dc1e;1 5 441;6 4 1dc1c;2 4 1dc1b;1 5 491;1 5 456;1 5 455;1 5 45f;",
   "1 5 4ab;1 5 a651;1 5 4b1;21 2;1 0;70 2;2d 0;3 2;e 0;2 2;a 0;4 2;2 0;140 2;1f 0;11 2;3a 0;5 2;",
   "1 0;1d0 2;2a 0;d6 2;2b 0;4 2;1 0;c0 2;1f 0;1 2;16 0;8 2;2 0;e0 2;7 0;1 2;4 0;1 2;2 0;1 2;f 0;",
   "1 2;c5 0;2 2;10 0;29 2;22 3 22;2a 0;4 2;a 0;4 2;2 0;311 2;44 0;4c 2;3d 0;c2 2;2 4 1e7d9;",
   "1 5 62c;1 5 62f;1 2;1 5 648;1 5 632;1 5 62d;1 5 637;1 5 64a;4 4 1e7c7;1 5 633;1 5 639;1 5 641;",
   "1 5 635;1 5 642;1 5 631;1 5 634;2 4 1e7eb;1 5 62e;1 5 630;1 5 636;1 5 638;1 5 63a;1 5 66e;",
   "1 5 6ba;1 5 6a1;1 5 66f;1 2;1 5 628;1 5 62c;1 2;1 5 647;2 2;1 5 62d;1 2;1 5 64a;4 4 1e7e7;",
   "1 5 633;1 5 639;1 5 641;1 5 635;1 5 642;1 2;1 5 634;2 4 1e80b;1 5 62e;1 2;1 5 636;1 2;1 5 63a;",
   "6 2;1 5 62c;4 2;1 5 62d;1 2;1 5 64a;1 2;1 5 644;1 2;1 5 646;1 5 633;1 5 639;1 2;1 5 635;",
   "1 5 642;1 2;1 5 634;2 2;1 5 62e;1 2;1 5 636;1 2;1 5 63a;1 2;1 5 6ba;1 2;1 5 66f;1 2;1 5 628;",
   "1 5 62c;1 2;1 5 647;2 2;1 5 62d;1 5 637;1 5 64a;1 5 643;1 2;2 4 1e827;1 5 633;1 5 639;1 5 641;",
   "1 5 635;1 5 642;1 2;1 5 634;2 4 1e84b;1 5 62e;1 2;1 5 636;1 5 638;1 5 63a;1 5 66e;1 2;1 5 6a1;",
   "1 2;2 4 1e859;1 5 62c;1 5 62f;2 4 1e83d;1 5 632;1 5 62d;1 5 637;1 5 64a;1 2;3 4 1e847;1 5 633;",
   "1 5 639;1 5 641;1 5 635;1 5 642;1 5 631;1 5 634;2 4 1e86b;1 5 62e;1 5 630;1 5 636;1 5 638;",
   "1 5 63a;5 2;1 5 628;1 5 62c;1 5 62f;1 2;1 5 648;1 5 632;1 5 62d;1 5 637;1 5 64a;1 2;3 4 1e867;",
   "1 5 633;1 5 639;1 5 641;1 5 635;1 5 642;1 5 631;1 5 634;2 4 1e88b;1 5 62e;1 5 630;1 5 636;",
   "1 5 638;1 5 63a;34 2;2 0;10e 2;2c 0;4 2;64 0;c 2;f 0;2 2;f 0;1 2;f 0;1 2;25 0;b 2;1 5 30 2c;",
   "1 5 31 2c;1 5 32 2c;1 5 33 2c;1 5 34 2c;1 5 35 2c;1 5 36 2c;1 5 37 2c;1 5 38 2c;1 5 39 2c;5 0;",
   "1 5 28 61 29;1 5 28 62 29;1 5 28 63 29;1 5 28 64 29;1 5 28 65 29;1 5 28 66 29;1 5 28 67 29;",
   "1 5 28 68 29;1 5 28 69 29;1 5 28 6a 29;1 5 28 6b 29;1 5 28 6c 29;1 5 28 6d 29;1 5 28 6e 29;",
   "1 5 28 6f 29;1 5 28 70 29;1 5 28 71 29;1 5 28 72 29;1 5 28 73 29;1 5 28 74 29;1 5 28 75 29;",
   "1 5 28 76 29;1 5 28 77 29;1 5 28 78 29;1 5 28 79 29;1 5 28 7a 29;1 5 3014 73 3015;1 5 63;",
   "1 5 72;1 5 63 64;1 5 77 7a;1 0;1a 4 1f0cf;1 5 68 76;1 5 6d 76;1 5 73 64;1 5 73 73;",
   "1 5 70 70 76;1 5 77 63;1a 0;1 5 6d 63;1 5 6d 64;1 5 6d 72;23 0;1 5 64 6a;1d 0;38 2;1a 0;",
   "1 5 307b 304b;1 5 30b3 30b3;1 5 30b5;d 2;1 5 624b;1 5 5b57;1 5 53cc;1 5 30c7;1 5 4e8c;",
   "1 5 591a;1 5 89e3;1 5 5929;1 5 4ea4;1 5 6620;1 5 7121;1 5 6599;1 5 524d;1 5 5f8c;1 5 518d;",
   "1 5 65b0;1 5 521d;1 5 7d42;1 5 751f;1 5 8ca9;1 5 58f0;1 5 5439;1 5 6f14;1 5 6295;1 5 6355;",
   "1 5 4e00;1 5 4e09;1 5 904a;1 5 5de6;1 5 4e2d;1 5 53f3;1 5 6307;1 5 8d70;1 5 6253;1 5 7981;",
   "1 5 7a7a;1 5 5408;1 5 6e80;1 5 6709;1 5 6708;1 5 7533;1 5 5272;1 5 55b6;1 5 914d;4 2;",
   "1 5 3014 672c 3015;1 5 3014 4e09 3015;1 5 3014 4e8c 3015;1 5 3014 5b89 3015;",
   "1 5 3014 70b9 3015;1 5 3014 6253 3015;1 5 3014 76d7 3015;1 5 3014 52dd 3015;",
   "1 5 3014 6557 3015;7 2;1 5 5f97;1 5 53ef;e 2;6 0;9a 2;3d9 0;3 2;11 0;3 2;d 0;3 2;da 0;6 2;c 0;",
   "4 2;1 0;f 2;c 0;4 2;38 0;8 2;a 0;6 2;28 0;8 2;1e 0;2 2;c 0;4 2;2 0;e 2;9 0;27 2;158 0;8 2;e 0;",
   "2 2;d 0;3 2;b 0;3 2;39 0;1 2;1 0;4 2;10 0;2 2;c 0;4 2;a 0;7 2;93 0;1 2;5c 0;a 4 1fbc0;1 0;",
   "405 2;a6e0 0;20 2;111e 0;2 2;168e 0;2 2;1d31 0;f 2;26e 0;9a2 2;1 5 4e3d;1 5 4e38;1 5 4e41;",
   "1 5 20122;1 5 4f60;1 5 4fae;1 5 4fbb;1 5 5002;1 5 507a;1 5 5099;1 5 50e7;1 5 50cf;1 5 349e;",
   "1 5 2063a;1 5 514d;1 5 5154;1 5 5164;1 5 5177;1 5 2051c;1 5 34b9;1 5 5167;1 5 518d;1 5 2054b;",
   "1 5 5197;1 5 51a4;1 5 4ecc;1 5 51ac;1 5 51b5;1 5 291df;1 5 51f5;1 5 5203;1 5 34df;1 5 523b;",
   "1 5 5246;1 5 5272;1 5 5277;1 5 3515;1 5 52c7;1 5 52c9;1 5 52e4;1 5 52fa;2 4 2a524;1 5 5317;",
   "1 5 5349;1 5 5351;1 5 535a;1 5 5373;1 5 537d;3 5 537f;1 5 20a2c;1 5 7070;1 5 53ca;1 5 53df;",
   "1 5 20b63;1 5 53eb;1 5 53f1;1 5 5406;1 5 549e;1 5 5438;1 5 5448;1 5 5468;1 5 54a2;1 5 54f6;",
   "1 5 5510;1 5 5553;1 5 5563;2 5 5584;1 5 5599;1 5 55ab;1 5 55b3;1 5 55c2;1 5 5716;1 5 5606;",
   "1 5 5717;1 5 5651;1 5 5674;1 5 5207;1 5 58ee;1 5 57ce;1 5 57f4;1 5 580d;1 5 578b;1 5 5832;",
   "1 5 5831;1 5 58ac;1 5 214e4;1 5 58f2;1 5 58f7;1 5 5906;1 5 591a;1 5 5922;1 5 5962;1 5 216a8;",
   "1 5 216ea;1 5 59ec;1 5 5a1b;1 5 5a27;1 5 59d8;1 5 5a66;1 5 36ee;1 5 36fc;1 5 5b08;2 5 5b3e;",
   "1 5 219c8;1 5 5bc3;1 5 5bd8;1 5 5be7;1 5 5bf3;1 5 21b18;1 5 5bff;1 5 5c06;1 5 5f53;1 5 5c22;",
   "1 5 3781;1 5 5c60;1 5 5c6e;1 5 5cc0;1 5 5c8d;1 5 21de4;1 5 5d43;1 5 21de6;1 5 5d6e;1 5 5d6b;",
   "1 5 5d7c;2 4 29aa0;1 5 382f;1 5 5dfd;1 5 5e28;1 5 5e3d;1 5 5e69;1 5 3862;1 5 22183;1 5 387c;",
   "1 5 5eb0;1 5 5eb3;1 5 5eb6;1 5 5eca;1 5 2a392;1 5 5efe;2 5 22331;1 5 8201;2 5 5f22;1 5 38c7;",
   "1 5 232b8;1 5 261da;1 5 5f62;1 5 5f6b;1 5 38e3;1 5 5f9a;1 5 5fcd;1 5 5fd7;1 5 5ff9;1 5 6081;",
   "1 5 393a;1 5 391c;1 5 6094;1 5 226d4;1 5 60c7;1 5 6148;1 5 614c;1 5 614e;1 5 614c;1 5 617a;",
   "1 5 618e;1 5 61b2;1 5 61a4;1 5 61af;1 5 61de;1 5 61f2;1 5 61f6;1 5 6210;1 5 621b;1 5 625d;",
   "1 5 62b1;1 5 62d4;1 5 6350;1 5 22b0c;1 5 633d;1 5 62fc;1 5 6368;1 5 6383;1 5 63e4;1 5 22bf1;",
   "1 5 6422;1 5 63c5;1 5 63a9;1 5 3a2e;1 5 6469;1 5 647e;1 5 649d;1 5 6477;1 5 3a6c;1 5 654f;",
   "1 5 656c;1 5 2300a;1 5 65e3;1 5 66f8;1 5 6649;1 5 3b19;1 5 6691;1 5 3b08;1 5 3ae4;1 5 5192;",
   "1 5 5195;1 5 6700;1 5 669c;1 5 80ad;1 5 43d9;1 5 6717;1 5 671b;1 5 6721;1 5 675e;1 5 6753;",
   "1 5 233c3;1 5 3b49;1 5 67fa;1 5 6785;1 5 6852;1 5 6885;1 5 2346d;1 5 688e;1 5 681f;1 5 6914;",
   "1 5 3b9d;1 5 6942;1 5 69a3;1 5 69ea;1 5 6aa8;1 5 236a3;1 5 6adb;1 5 3c18;1 5 6b21;1 5 238a7;",
   "1 5 6b54;1 5 3c4e;1 5 6b72;1 5 6b9f;2 4 28d3b;1 5 23a8d;1 5 21d0b;1 5 23afa;1 5 6c4e;",
   "1 5 23cbc;1 5 6cbf;1 5 6ccd;1 5 6c67;1 5 6d16;1 5 6d3e;1 5 6d77;1 5 6d41;1 5 6d69;1 5 6d78;",
   "1 5 6d85;1 5 23d1e;1 5 6d34;1 5 6e2f;1 5 6e6e;1 5 3d33;1 5 6ecb;1 5 6ec7;1 5 23ed1;1 5 6df9;",
   "1 5 6f6e;1 5 23f5e;1 5 23f8e;1 5 6fc6;1 5 7039;1 5 701e;1 5 701b;1 5 3d96;1 5 704a;1 5 707d;",
   "1 5 7077;1 5 70ad;1 5 20525;1 5 7145;1 5 24263;1 5 719c;1 5 243ab;1 5 7228;1 5 7235;1 5 7250;",
   "1 5 24608;1 5 7280;1 5 7295;1 5 24735;1 5 24814;1 5 737a;1 5 738b;1 5 3eac;1 5 73a5;2 5 3eb8;",
   "1 5 7447;1 5 745c;1 5 7471;1 5 7485;1 5 74ca;1 5 3f1b;1 5 7524;1 5 24c36;1 5 753e;1 5 24c92;",
   "1 5 7570;1 5 2219f;1 5 7610;1 5 24fa1;1 5 24fb8;1 5 25044;1 5 3ffc;1 5 4008;1 5 76f4;",
   "1 5 250f3;1 5 250f2;1 5 25119;1 5 25133;2 4 28227;1 5 771f;1 5 774a;1 5 4039;1 5 778b;",
   "1 5 4046;1 5 4096;1 5 2541d;1 5 784e;1 5 788c;1 5 78cc;1 5 40e3;1 5 25626;1 5 7956;1 5 2569a;",
   "1 5 256c5;1 5 798f;1 5 79eb;1 5 412f;1 5 7a40;1 5 7a4a;1 5 7a4f;1 5 2597c;2 5 25aa7;1 5 7aee;",
   "1 5 4202;1 5 25bab;1 5 7bc6;1 5 7bc9;1 5 4227;1 5 25c80;1 5 7cd2;1 5 42a0;1 5 7ce8;1 5 7ce3;",
   "1 5 7d00;1 5 25f86;1 5 7d63;1 5 4301;1 5 7dc7;1 5 7e02;1 5 7e45;1 5 4334;1 5 26228;1 5 26247;",
   "1 5 4359;1 5 262d9;1 5 7f7a;1 5 2633e;1 5 7f95;1 5 7ffa;1 5 8005;1 5 264da;1 5 26523;1 5 8060;",
   "1 5 265a8;1 5 8070;1 5 2335f;1 5 43d5;1 5 80b2;1 5 8103;1 5 440b;1 5 813e;1 5 5ab5;1 5 267a7;",
   "1 5 267b5;1 5 23393;1 5 2339c;1 5 8201;1 5 8204;1 5 8f9e;1 5 446b;1 5 8291;1 5 828b;1 5 829d;",
   "1 5 52b3;1 5 82b1;1 5 82b3;1 5 82bd;1 5 82e6;1 5 26b3c;1 5 82e5;1 5 831d;1 5 8363;1 5 83ad;",
   "1 5 8323;1 5 83bd;1 5 83e7;1 5 8457;1 5 8353;1 5 83ca;1 5 83cc;1 5 83dc;1 5 26c36;1 5 26d6b;",
   "1 5 26cd5;1 5 452b;1 5 84f1;1 5 84f3;1 5 8516;1 5 273ca;1 5 8564;1 5 26f2c;1 5 455d;1 5 4561;",
   "1 5 26fb1;1 5 270d2;1 5 456b;1 5 8650;1 5 865c;1 5 8667;1 5 8669;1 5 86a9;1 5 8688;1 5 870e;",
   "1 5 86e2;1 5 8779;1 5 8728;1 5 876b;1 5 8786;1 5 45d7;1 5 87e1;1 5 8801;1 5 45f9;1 5 8860;",
   "1 5 8863;1 5 27667;1 5 88d7;1 5 88de;1 5 4635;1 5 88fa;1 5 34bb;1 5 278ae;1 5 27966;1 5 46be;",
   "1 5 46c7;1 5 8aa0;1 5 8aed;1 5 8b8a;1 5 8c55;1 5 27ca8;1 5 8cab;1 5 8cc1;1 5 8d1b;1 5 8d77;",
   "1 5 27f2f;1 5 20804;1 5 8dcb;1 5 8dbc;1 5 8df0;1 5 208de;1 5 8ed4;1 5 8f38;1 5 285d2;",
   "1 5 285ed;1 5 9094;1 5 90f1;1 5 9111;1 5 2872e;1 5 911b;1 5 9238;2 4 26711;1 5 927c;1 5 93f9;",
   "1 5 9415;1 5 28bfa;1 5 958b;1 5 4995;1 5 95b7;1 5 28d77;1 5 49e6;1 5 96c3;1 5 5db2;1 5 9723;",
   "1 5 29145;1 5 2921a;1 5 4a6e;1 5 4a76;1 5 97e0;1 5 2940a;1 5 4ab2;1 5 29496;2 5 980b;1 5 9829;",
   "1 5 295b6;1 5 98e2;1 5 4b33;1 5 9929;1 5 99a7;1 5 99c2;1 5 99fe;1 5 4bce;1 5 29b30;1 5 9b12;",
   "1 5 9c40;1 5 9cfd;1 5 4cce;1 5 4ced;1 5 9d67;1 5 2a0ce;1 5 4cf8;1 5 2a105;1 5 2a20e;1 5 2a291;",
   "1 5 9ebb;1 5 4d56;1 5 9ef9;1 5 9efe;1 5 9f05;1 5 9f0f;1 5 9f16;1 5 9f3b;1 5 2a600;5e2 2;",
   "134b 0;5 2;212a 0;acc86 2;f0 1;2fe10 2;"]

end Idna
end Url
end ToolPack
