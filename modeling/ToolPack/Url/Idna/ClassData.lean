/-!
# Classes of characters in domain names, as data

By runs of code points: the directional class (`Url/Idna/Direction` names the numbers), the
joining class (`Url/Idna/Joining` names them), and whether a character is a combining mark.
-/

set_option autoImplicit false

namespace ToolPack
namespace Url
namespace Idna

/-- Directional classes. -/
def directionText : List String :=
  ["9 a;5 0;e a;5 0;2 b;3 7;5 b;1 5;1 6;1 5;2 6;a 4;1 6;6 b;1a 1;6 b;1a 1;4 b;6 a;1 0;1a a;1 6;",
   "1 b;4 7;4 b;1 1;2 b;1 a;2 b;2 7;2 4;1 b;1 1;3 b;1 4;1 1;5 b;17 1;1 b;1f 1;1 b;1c1 1;2 b;7 1;",
   "e b;2 1;e b;5 1;9 b;1 1;11 b;70 9;4 1;2 b;8 1;1 b;5 1;2 b;1 1;1 b;6e 1;1 b;8c 1;7 9;100 1;1 b;",
   "2 1;2 b;1 7;1 2;2d 9;1 2;1 9;1 2;2 9;1 2;2 9;1 2;1 9;38 2;6 8;2 b;1 3;2 7;1 3;1 6;1 3;2 b;b 9;",
   "30 3;15 9;a 8;1 7;2 8;3 3;1 9;65 3;7 9;1 8;1 b;6 9;2 3;2 9;1 b;4 9;2 3;a 4;17 3;1 9;1e 3;1b 9;",
   "5b 3;b 9;f 3;2b 2;9 9;2 2;4 b;3 2;1 9;18 2;4 9;1 2;9 9;1 2;3 9;1 2;5 9;2b 2;3 9;4 2;30 3;2 8;",
   "5 3;9 9;2a 3;18 9;1 8;20 9;37 1;1 9;1 1;1 9;4 1;8 9;4 1;1 9;3 1;7 9;a 1;2 9;1d 1;1 9;3a 1;1 9;",
   "4 1;4 9;8 1;1 9;14 1;2 9;e 1;2 7;7 1;1 7;2 1;1 9;2 1;2 9;39 1;1 9;4 1;2 9;4 1;2 9;2 1;3 9;3 1;",
   "1 9;1e 1;2 9;3 1;1 9;b 1;2 9;39 1;1 9;4 1;5 9;1 1;2 9;4 1;1 9;14 1;2 9;d 1;1 7;8 1;6 9;1 1;",
   "1 9;3a 1;1 9;2 1;1 9;1 1;4 9;8 1;1 9;7 1;2 9;b 1;2 9;1e 1;1 9;3d 1;1 9;c 1;1 9;25 1;6 b;1 7;",
   "1 b;5 1;1 9;3 1;1 9;37 1;1 9;1 1;3 9;5 1;3 9;1 1;4 9;7 1;2 9;b 1;2 9;14 1;7 b;2 1;1 9;3a 1;",
   "1 9;f 1;2 9;14 1;2 9;1c 1;2 9;39 1;2 9;4 1;4 9;8 1;1 9;14 1;2 9;1d 1;1 9;48 1;1 9;7 1;3 9;1 1;",
   "1 9;5a 1;1 9;2 1;7 9;4 1;1 7;7 1;8 9;62 1;1 9;2 1;9 9;b 1;7 9;49 1;2 9;1b 1;1 9;1 1;1 9;1 1;",
   "1 9;4 b;33 1;e 9;1 1;5 9;1 1;2 9;5 1;b 9;1 1;24 9;9 1;1 9;66 1;4 9;1 1;6 9;1 1;2 9;2 1;2 9;",
   "19 1;2 9;4 1;3 9;10 1;4 9;d 1;1 9;2 1;2 9;6 1;1 9;f 1;1 9;2bf 1;3 9;30 1;a b;66 1;1 b;27f 1;",
   "1 0;1a 1;2 b;75 1;3 9;1d 1;2 9;1e 1;2 9;1e 1;2 9;40 1;2 9;1 1;7 9;8 1;1 9;2 1;b 9;7 1;1 7;1 1;",
   "1 9;12 1;a b;6 1;b b;3 9;1 a;1 9;75 1;2 9;22 1;1 9;76 1;3 9;4 1;2 9;9 1;1 9;6 1;3 9;4 1;1 b;",
   "3 1;2 b;98 1;22 b;17 1;2 9;2 1;1 9;3a 1;1 9;1 1;7 9;1 1;1 9;1 1;1 9;2 1;8 9;6 1;a 9;2 1;1 9;",
   "30 1;2e 9;2 1;c 9;14 1;4 9;30 1;1 9;1 1;5 9;1 1;1 9;5 1;1 9;28 1;9 9;c 1;2 9;20 1;4 9;2 1;2 9;",
   "1 1;3 9;38 1;1 9;1 1;2 9;3 1;1 9;1 1;3 9;3a 1;8 9;2 1;2 9;98 1;3 9;1 1;d 9;1 1;7 9;4 1;1 9;",
   "6 1;1 9;3 1;2 9;c6 1;40 9;1bd 1;1 b;1 1;3 b;b 1;3 b;d 1;3 b;d 1;3 b;d 1;2 b;1 1;b 0;3 a;1 1;",
   "1 2;18 b;7 0;1 6;5 7;f b;1 6;1a b;1 0;6 a;4 0;6 a;1 4;3 1;6 4;2 5;3 b;1 1;a 4;2 5;3 b;11 1;",
   "30 7;21 9;f 1;2 b;1 1;4 b;1 1;2 b;a 1;1 b;1 1;3 b;5 1;6 b;1 1;1 b;1 1;1 b;1 1;1 b;4 1;1 7;b 1;",
   "2 b;4 1;5 b;5 1;4 b;2 1;10 b;29 1;3 b;4 1;82 b;1 5;1 7;122 b;45 1;1a b;1 1;94 b;16 1;b b;15 1;",
   "28 b;14 4;4e 1;1c2 b;1 1;153 b;100 1;274 b;2 1;8a b;e5 1;6 b;4 1;3 9;7 1;7 b;7f 1;1 9;60 1;",
   "20 9;5e b;22 1;1a b;1 1;59 b;c 1;d6 b;1a 1;10 b;1 0;4 b;3 1;19 b;9 1;4 9;2 1;1 b;5 1;2 b;5 1;",
   "3 b;59 1;2 9;2 b;3 1;1 b;5a 1;1 b;c4 1;26 b;9 1;1 b;2d 1;2 b;31 1;10 b;1c 1;3 b;32 1;f b;c 1;",
   "4 b;a7 1;4 b;63 1;2 b;1f 1;1 b;19c0 1;40 b;5690 1;37 b;146 1;3 b;5f 1;4 9;1 b;a 9;2 b;1e 1;",
   "2 9;50 1;2 9;e 1;22 b;66 1;1 b;79 1;1 9;3 1;1 9;4 1;1 9;19 1;2 9;1 1;4 b;1 9;b 1;2 7;3a 1;4 b;",
   "4c 1;2 9;1a 1;12 9;d 1;1 9;26 1;8 9;19 1;b 9;2e 1;3 9;30 1;1 9;2 1;4 9;2 1;2 9;27 1;1 9;43 1;",
   "6 9;2 1;2 9;2 1;2 9;c 1;1 9;8 1;1 9;2f 1;1 9;33 1;1 9;1 1;3 9;2 1;2 9;5 1;2 9;1 1;1 9;2a 1;",
   "2 9;8 1;1 9;73 1;2 b;79 1;1 9;2 1;1 9;4 1;1 9;4f2f 1;1 2;1 9;a 2;1 5;26 2;1ee 3;12 b;7f 3;1 b;",
   "20 a;d 3;3 b;10 9;a b;6 1;10 9;20 b;1 6;1 b;1 6;1 1;1 b;1 6;9 b;1 7;2 b;2 5;3 b;1 1;1 b;2 7;",
   "1 b;4 1;8f 3;1 a;1 1;2 b;3 7;5 b;1 5;1 6;1 5;2 6;a 4;1 6;6 b;1a 1;6 b;1a 1;b b;7a 1;2 7;3 b;",
   "2 7;1 1;7 b;1 1;9 a;5 b;2 a;101 1;1 b;3e 1;4d b;3 1;d b;3 1;1 b;5c 1;1 9;e2 1;1 9;1b 4;7a 1;",
   "5 9;485 1;11f 2;1 b;e1 2;3 9;1 2;2 9;5 2;4 9;28 2;3 9;4 2;1 9;a5 2;2 9;52 2;7 b;1c0 2;24 3;",
   "4 9;8 3;a 8;6 3;29 2;5 9;f2 2;1f 8;2c 2;2 9;13 2;3a 3;6 9;30 2;16 3;b 9;1f 3;12 2;4 9;7a 2;",
   "1 1;1 9;36 1;f 9;b 1;14 b;a 1;1 9;2 1;2 9;a 1;3 9;31 1;4 9;2 1;2 9;7 1;1 9;3d 1;3 9;24 1;5 9;",
   "1 1;8 9;3e 1;1 9;c 1;2 9;34 1;9 9;a 1;4 9;2 1;1 9;5f 1;3 9;2 1;1 9;1 1;2 9;6 1;1 9;2 1;1 9;",
   "9d 1;1 9;3 1;8 9;15 1;2 9;39 1;2 9;3 1;1 9;25 1;7 9;3 1;5 9;46 1;6 9;d 1;1 9;1 1;1 9;1 1;1 9;",
   "e 1;2 9;55 1;8 9;2 1;3 9;1 1;1 9;17 1;1 9;54 1;6 9;1 1;1 9;4 1;2 9;1 1;2 9;ee 1;4 9;6 1;2 9;",
   "1 1;2 9;1b 1;2 9;55 1;8 9;2 1;1 9;1 1;2 9;1f 1;d b;3e 1;1 9;1 1;1 9;2 1;6 9;1 1;1 9;65 1;3 9;",
   "2 1;4 9;1 1;5 9;103 1;9 9;1 1;2 9;100 1;2 9;1 1;1 9;4 1;1 9;90 1;4 9;2 1;2 9;4 1;1 9;20 1;6 9;",
   "2 1;2 9;28 1;6 9;2 1;4 9;8 1;1 9;9 1;6 9;2 1;3 9;2e 1;d 9;1 1;2 9;c6 1;1 9;1 1;3 9;1 1;1 9;",
   "c9 1;7 9;1 1;6 9;54 1;16 9;2 1;7 9;1 1;2 9;1 1;2 9;7a 1;6 9;3 1;1 9;1 1;2 9;1 1;7 9;1 1;1 9;",
   "48 1;2 9;3 1;1 9;1 1;1 9;15b 1;2 9;b 1;2 9;34 1;5 9;5 1;1 9;1 1;1 9;17 1;1 9;7a 1;8 b;4 7;",
   "11 b;144e 1;1 9;6 1;f 9;2cc8 1;c 9;3 1;3 9;9c0 1;5 9;3b 1;7 9;418 1;1 9;3f 1;4 9;4f 1;1 b;1 1;",
   "1 9;4cb8 1;2 9;1 1;4 a;f5c 1;f0 b;a 4;3 b;3 1;1b4 b;6 1;17 b;f 1;11 b;f 1;2e 9;2 1;17 9;220 1;",
   "3 9;9 1;8 a;8 9;2 1;7 9;1e 1;4 9;3b 1;2 b;15 1;42 b;3 9;1 b;ba 1;57 b;384 1;1 b;39 1;1 b;39 1;",
   "1 b;39 1;1 b;39 1;1 b;a 1;32 4;200 1;37 9;4 1;32 9;8 1;1 9;e 1;1 9;16 1;5 9;1 1;f 9;550 1;7 9;",
   "1 1;11 9;2 1;7 9;1 1;2 9;1 1;5 9;64 1;1 9;a0 1;7 9;177 1;1 9;3d 1;4 9;f 1;1 7;1ec 1;4 9;fe 1;",
   "2 9;f3 1;1 9;2 1;1 9;7 1;2 9;5 1;1 9;10a 1;d0 2;7 9;6d 2;7 9;325 2;50 3;40 2;50 3;b0 2;f0 3;",
   "2 b;e 3;100 2;2c b;4 1;64 b;c 1;f b;2 1;f b;1 1;f b;1 1;25 b;a 1;b 4;5 b;1f 1;1 b;3a 1;6 b;",
   "3d 1;1 b;b2 1;6 b;9a 1;3d9 b;3 1;11 b;3 1;d b;3 1;da b;6 1;c b;4 1;1 b;f 1;c b;4 1;38 b;8 1;",
   "a b;6 1;28 b;8 1;1e b;2 1;c b;4 1;2 b;e 1;9 b;27 1;158 b;8 1;e b;2 1;d b;3 1;b b;3 1;39 b;1 1;",
   "1 b;4 1;10 b;2 1;c b;4 1;a b;7 1;93 b;1 1;5c b;a 4;1 b;403 1;2 a;fffe 1;2 a;fffe 1;2 a;fffe 1;",
   "2 a;fffe 1;2 a;fffe 1;2 a;fffe 1;2 a;fffe 1;2 a;fffe 1;2 a;fffe 1;2 a;fffe 1;2 a;fffe 1;2 a;",
   "fffe 1;102 a;f0 9;e10 a;effe 1;2 a;fffe 1;2 a;fffe 1;2 a;"]

/-- Joining classes. -/
def joiningText : List String :=
  ["ad 0;1 4;252 0;70 4;113 0;7 4;107 0;2d 4;1 0;1 4;1 0;2 4;1 0;2 4;1 0;1 4;48 0;b 4;1 0;1 4;3 0;",
   "1 3;1 0;4 2;1 3;1 2;1 3;1 2;5 3;4 2;d 3;1 5;7 3;1 2;2 3;15 4;e 0;2 3;1 4;3 2;1 0;3 2;10 3;",
   "12 2;26 3;1 2;2 3;9 2;1 3;1 2;1 3;1 2;2 3;2 2;1 0;1 2;7 4;2 0;6 4;2 0;2 4;1 0;4 4;2 2;a 0;3 3;",
   "2 0;1 3;f 0;1 4;1 2;1 4;3 3;5 2;4 3;1 2;9 3;1 2;1 3;1 2;1 3;1 2;2 3;1 2;1b 4;2 0;1 2;b 3;3 2;",
   "f 3;2 2;4 3;1 2;1 3;2 2;3 3;2 2;6 3;26 0;b 4;19 0;21 3;9 4;6 0;1 5;2 0;1 4;18 0;4 4;1 0;9 4;",
   "1 0;3 4;1 0;5 4;12 0;1 2;5 3;2 2;1 3;1 2;a 3;1 2;1 3;3 2;3 4;4 0;1 3;1 0;4 3;1 0;1 2;1 3;2 2;",
   "5 0;13 2;3 5;1 3;2 0;5 3;1 2;8 0;9 4;a 3;3 2;1 0;1 2;2 3;2 2;6 3;1 2;f 3;1 0;18 4;1 0;20 4;",
   "37 0;1 4;1 0;1 4;4 0;8 4;4 0;1 4;3 0;7 4;a 0;2 4;1d 0;1 4;3a 0;1 4;4 0;4 4;8 0;1 4;14 0;2 4;",
   "1a 0;1 4;2 0;2 4;39 0;1 4;4 0;2 4;4 0;2 4;2 0;3 4;3 0;1 4;1e 0;2 4;3 0;1 4;b 0;2 4;39 0;1 4;",
   "4 0;5 4;1 0;2 4;4 0;1 4;14 0;2 4;16 0;6 4;1 0;1 4;3a 0;1 4;2 0;1 4;1 0;4 4;8 0;1 4;7 0;2 4;",
   "b 0;2 4;1e 0;1 4;3d 0;1 4;c 0;1 4;32 0;1 4;3 0;1 4;37 0;1 4;1 0;3 4;5 0;3 4;1 0;4 4;7 0;2 4;",
   "b 0;2 4;1d 0;1 4;3a 0;1 4;2 0;1 4;6 0;1 4;5 0;2 4;14 0;2 4;1c 0;2 4;39 0;2 4;4 0;4 4;8 0;1 4;",
   "14 0;2 4;1d 0;1 4;48 0;1 4;7 0;3 4;1 0;1 4;5a 0;1 4;2 0;7 4;c 0;8 4;62 0;1 4;2 0;9 4;b 0;7 4;",
   "49 0;2 4;1b 0;1 4;1 0;1 4;1 0;1 4;37 0;e 4;1 0;5 4;1 0;2 4;5 0;b 4;1 0;24 4;9 0;1 4;66 0;4 4;",
   "1 0;6 4;1 0;2 4;2 0;2 4;19 0;2 4;4 0;3 4;10 0;4 4;d 0;1 4;2 0;2 4;6 0;1 4;f 0;1 4;2bf 0;3 4;",
   "3b2 0;3 4;1d 0;2 4;1e 0;2 4;1e 0;2 4;40 0;2 4;1 0;7 4;8 0;1 4;2 0;b 4;9 0;1 4;29 0;1 3;2 0;",
   "1 5;3 4;1 0;1 4;10 0;59 3;c 0;2 4;22 3;1 4;1 3;75 0;3 4;4 0;2 4;9 0;1 4;6 0;3 4;db 0;2 4;2 0;",
   "1 4;3a 0;1 4;1 0;7 4;1 0;1 4;1 0;1 4;2 0;8 4;6 0;a 4;2 0;1 4;30 0;2e 4;2 0;c 4;14 0;4 4;30 0;",
   "1 4;1 0;5 4;1 0;1 4;5 0;1 4;28 0;9 4;c 0;2 4;20 0;4 4;2 0;2 4;1 0;3 4;38 0;1 4;1 0;2 4;3 0;",
   "1 4;1 0;3 4;3a 0;8 4;2 0;2 4;98 0;3 4;1 0;d 4;1 0;7 4;4 0;1 4;6 0;1 4;3 0;2 4;c6 0;40 4;20b 0;",
   "1 4;1 0;1 5;2 4;1a 0;5 4;31 0;5 4;5 0;6 4;60 0;21 4;bfe 0;3 4;8d 0;1 4;60 0;20 4;22a 0;4 4;",
   "6b 0;2 4;75d4 0;4 4;1 0;a 4;20 0;2 4;50 0;2 4;110 0;1 4;3 0;1 4;4 0;1 4;19 0;2 4;5 0;1 4;13 0;",
   "32 3;1 1;51 0;2 4;1a 0;12 4;d 0;1 4;26 0;8 4;19 0;b 4;2e 0;3 4;30 0;1 4;2 0;4 4;2 0;2 4;27 0;",
   "1 4;43 0;6 4;2 0;2 4;2 0;2 4;c 0;1 4;8 0;1 4;2f 0;1 4;33 0;1 4;1 0;3 4;2 0;2 4;5 0;2 4;1 0;",
   "1 4;2a 0;2 4;8 0;1 4;ee 0;1 4;2 0;1 4;4 0;1 4;4f30 0;1 4;2e1 0;10 4;10 0;10 4;cf 0;1 4;f9 0;",
   "3 4;201 0;1 4;e2 0;1 4;95 0;5 4;686 0;3 4;1 0;2 4;5 0;4 4;28 0;3 4;4 0;1 4;80 0;5 3;1 2;1 0;",
   "1 2;1 0;2 2;2 0;1 1;5 2;4 3;1 1;5 3;1 2;3 3;1 2;2 0;1 2;2 4;4 0;4 3;1 2;90 0;1 3;1 2;1 3;3 2;",
   "3 3;1 2;2 3;1 2;1 3;2 2;1 3;1 2;17 0;4 2;2 3;151 0;1 1;21 3;1 2;1 3;4 4;41 0;5 4;13d 0;2 4;",
   "4d 0;6 4;30 0;3 3;1 2;11 3;1 0;b 4;3 3;1 2;1b 0;4 3;2 2;c 3;4 4;2a 0;1 3;1 0;2 3;3 2;1 0;1 3;",
   "2 2;2 3;1 2;2 3;1 0;1 3;2 2;1 3;4 0;1 2;1 3;1 1;35 0;1 4;36 0;f 4;29 0;1 4;2 0;2 4;a 0;3 4;",
   "31 0;4 4;2 0;2 4;7 0;1 4;3d 0;3 4;24 0;5 4;1 0;8 4;3e 0;1 4;c 0;2 4;34 0;9 4;a 0;4 4;2 0;1 4;",
   "5f 0;3 4;2 0;1 4;1 0;2 4;6 0;1 4;2 0;1 4;9d 0;1 4;3 0;8 4;15 0;2 4;39 0;2 4;3 0;1 4;25 0;7 4;",
   "3 0;5 4;46 0;6 4;d 0;1 4;1 0;1 4;1 0;1 4;e 0;2 4;55 0;8 4;2 0;3 4;1 0;1 4;17 0;1 4;54 0;6 4;",
   "1 0;1 4;4 0;2 4;1 0;2 4;ee 0;4 4;6 0;2 4;1 0;2 4;1b 0;2 4;55 0;8 4;2 0;1 4;1 0;2 4;6a 0;1 4;",
   "1 0;1 4;2 0;6 4;1 0;1 4;65 0;3 4;2 0;4 4;1 0;5 4;103 0;9 4;1 0;2 4;100 0;2 4;1 0;1 4;4 0;1 4;",
   "90 0;4 4;2 0;2 4;4 0;1 4;20 0;a 4;28 0;6 4;2 0;4 4;8 0;1 4;9 0;6 4;2 0;3 4;2e 0;d 4;1 0;2 4;",
   "c6 0;1 4;1 0;3 4;1 0;1 4;c9 0;7 4;1 0;6 4;1 0;1 4;52 0;16 4;2 0;7 4;1 0;2 4;1 0;2 4;7a 0;6 4;",
   "3 0;1 4;1 0;2 4;1 0;7 4;1 0;1 4;48 0;2 4;3 0;1 4;1 0;1 4;15b 0;2 4;b 0;2 4;34 0;5 4;5 0;1 4;",
   "1 0;1 4;17 0;1 4;14d5 0;11 4;6 0;f 4;2cc8 0;c 4;3 0;3 4;9c0 0;5 4;3b 0;7 4;418 0;1 4;3f 0;4 4;",
   "51 0;1 4;4cb8 0;2 4;1 0;4 4;125c 0;2e 4;2 0;17 4;220 0;3 4;9 0;10 4;2 0;7 4;1e 0;4 4;94 0;3 4;",
   "7bb 0;37 4;4 0;32 4;8 0;1 4;e 0;1 4;16 0;5 4;1 0;f 4;550 0;7 4;1 0;11 4;2 0;7 4;1 0;2 4;1 0;",
   "5 4;64 0;1 4;a0 0;7 4;177 0;1 4;3d 0;4 4;1fc 0;4 4;fe 0;2 4;f3 0;1 4;2 0;1 4;7 0;2 4;5 0;1 4;",
   "1da 0;7 4;29 0;44 3;8 4;c16b5 0;1 4;1e 0;60 4;80 0;f0 4;2fe10 0;"]

/-- Combining marks. -/
def markText : List String :=
  ["300 0;70 1;113 0;7 1;107 0;2d 1;1 0;1 1;1 0;2 1;1 0;2 1;1 0;1 1;48 0;b 1;30 0;15 1;10 0;1 1;",
   "65 0;7 1;2 0;6 1;2 0;2 1;1 0;4 1;23 0;1 1;1e 0;1b 1;5b 0;b 1;3a 0;9 1;9 0;1 1;18 0;4 1;1 0;",
   "9 1;1 0;3 1;1 0;5 1;2b 0;3 1;3b 0;9 1;2a 0;18 1;1 0;21 1;36 0;3 1;1 0;12 1;1 0;7 1;a 0;2 1;",
   "1d 0;3 1;38 0;1 1;1 0;7 1;2 0;2 1;2 0;3 1;9 0;1 1;a 0;2 1;1a 0;1 1;2 0;3 1;38 0;1 1;1 0;5 1;",
   "4 0;2 1;2 0;3 1;3 0;1 1;1e 0;2 1;3 0;1 1;b 0;3 1;38 0;1 1;1 0;8 1;1 0;3 1;1 0;3 1;14 0;2 1;",
   "16 0;6 1;1 0;3 1;38 0;1 1;1 0;7 1;2 0;2 1;2 0;3 1;7 0;3 1;a 0;2 1;1e 0;1 1;3b 0;5 1;3 0;3 1;",
   "1 0;4 1;9 0;1 1;28 0;5 1;37 0;1 1;1 0;7 1;1 0;3 1;1 0;4 1;7 0;2 1;b 0;2 1;1d 0;3 1;38 0;1 1;",
   "1 0;7 1;1 0;3 1;1 0;4 1;7 0;2 1;b 0;2 1;f 0;1 1;c 0;4 1;37 0;2 1;1 0;7 1;1 0;3 1;1 0;4 1;9 0;",
   "1 1;a 0;2 1;1d 0;3 1;46 0;1 1;4 0;6 1;1 0;1 1;1 0;8 1;12 0;2 1;3d 0;1 1;2 0;7 1;c 0;8 1;62 0;",
   "1 1;2 0;9 1;b 0;7 1;49 0;2 1;1b 0;1 1;1 0;1 1;1 0;1 1;4 0;2 1;31 0;14 1;1 0;2 1;5 0;b 1;1 0;",
   "24 1;9 0;1 1;64 0;14 1;17 0;4 1;4 0;3 1;1 0;3 1;2 0;7 1;3 0;4 1;d 0;c 1;1 0;1 1;a 0;4 1;2bf 0;",
   "3 1;3b2 0;4 1;1c 0;3 1;1d 0;2 1;1e 0;2 1;40 0;20 1;9 0;1 1;2d 0;3 1;1 0;1 1;75 0;2 1;22 0;1 1;",
   "76 0;c 1;4 0;c 1;db 0;5 1;39 0;a 1;1 0;1d 1;2 0;1 1;30 0;2e 1;2 0;c 1;14 0;5 1;2f 0;11 1;26 0;",
   "9 1;c 0;3 1;1e 0;d 1;38 0;e 1;30 0;14 1;98 0;3 1;1 0;15 1;4 0;1 1;6 0;1 1;2 0;3 1;c6 0;40 1;",
   "2d0 0;21 1;bfe 0;3 1;8d 0;1 1;60 0;20 1;22a 0;6 1;69 0;2 1;75d4 0;4 1;1 0;a 1;20 0;2 1;50 0;",
   "2 1;110 0;1 1;3 0;1 1;4 0;1 1;17 0;5 1;4 0;1 1;53 0;2 1;32 0;12 1;1a 0;12 1;d 0;1 1;26 0;8 1;",
   "19 0;d 1;2c 0;4 1;2f 0;e 1;24 0;1 1;43 0;e 1;c 0;1 1;8 0;2 1;2d 0;3 1;32 0;1 1;1 0;3 1;2 0;",
   "2 1;5 0;2 1;1 0;1 1;29 0;5 1;5 0;2 1;ec 0;8 1;1 0;2 1;4f30 0;1 1;2e1 0;10 1;10 0;10 1;3cd 0;",
   "1 1;e2 0;1 1;95 0;5 1;686 0;3 1;1 0;2 1;5 0;4 1;28 0;3 1;4 0;1 1;a5 0;2 1;23d 0;4 1;41 0;5 1;",
   "13d 0;2 1;4d 0;6 1;46 0;b 1;31 0;4 1;7a 0;3 1;35 0;f 1;29 0;1 1;2 0;2 1;a 0;4 1;2d 0;b 1;7 0;",
   "1 1;3d 0;3 1;24 0;e 1;10 0;2 1;2c 0;1 1;c 0;3 1;30 0;e 1;8 0;4 1;1 0;2 1;5c 0;c 1;6 0;1 1;2 0;",
   "1 1;9d 0;c 1;15 0;4 1;37 0;2 1;1 0;7 1;2 0;2 1;2 0;3 1;9 0;1 1;a 0;2 1;2 0;7 1;3 0;5 1;43 0;",
   "9 1;1 0;1 1;2 0;1 1;1 0;4 1;1 0;5 1;1 0;1 1;e 0;2 1;52 0;12 1;17 0;1 1;51 0;14 1;eb 0;7 1;2 0;",
   "9 1;1b 0;2 1;52 0;11 1;6a 0;d 1;65 0;f 1;100 0;f 1;f5 0;6 1;1 0;2 1;2 0;4 1;1 0;1 1;1 0;2 1;",
   "8d 0;7 1;2 0;7 1;3 0;1 1;1c 0;a 1;28 0;7 1;1 0;4 1;8 0;1 1;9 0;b 1;2e 0;10 1;c6 0;8 1;c7 0;",
   "8 1;1 0;8 1;52 0;16 1;1 0;e 1;7a 0;6 1;3 0;1 1;1 0;2 1;1 0;7 1;1 0;1 1;42 0;5 1;1 0;2 1;1 0;",
   "5 1;15b 0;4 1;9 0;2 1;1 0;1 1;30 0;7 1;3 0;5 1;17 0;1 1;14e5 0;1 1;6 0;f 1;2cc8 0;12 1;9c0 0;",
   "5 1;3b 0;7 1;418 0;1 1;1 0;37 1;7 0;4 1;51 0;1 1;b 0;2 1;4cab 0;2 1;1261 0;2e 1;2 0;17 1;",
   "21e 0;5 1;3 0;6 1;8 0;8 1;2 0;7 1;1e 0;4 1;94 0;3 1;7bb 0;37 1;4 0;32 1;8 0;1 1;e 0;1 1;16 0;",
   "5 1;1 0;f 1;550 0;7 1;1 0;11 1;2 0;7 1;1 0;2 1;1 0;5 1;64 0;1 1;a0 0;7 1;177 0;1 1;3d 0;4 1;",
   "1fc 0;4 1;fe 0;2 1;f3 0;1 1;2 0;1 1;7 0;2 1;5 0;1 1;1da 0;7 1;6d 0;7 1;c17b5 0;f0 1;2fe10 0;"]

end Idna
end Url
end ToolPack
