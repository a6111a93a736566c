import ProcessGraph.Text.Ranges
import ProcessGraph.Text.Table

/-!
# Combining classes

* `combiningClass`: the class of a mark that tells where it stands; marks of different classes may
  change places. Characters that are no marks have class zero.
* `isVirama`: marks that silence a vowel.
-/

namespace ProcessGraph.Text

/-- Each row gives a class and the boundaries of its ranges. -/
def combiningClassText : String := "
  1 334 339 1cd4 1cd5 1ce2 1ce9 20d2 20d4 20d8 20db 20e5 20e7 20ea 20ec 10a39 10a3a 16af0 16af5
  1bc9e 1bc9f 1d167 1d16a; 6 16ff0 16ff2; 7 93c 93d 9bc 9bd a3c a3d abc abd b3c b3d c3c c3d cbc
  cbd 1037 1038 1b34 1b35 1be6 1be7 1c37 1c38 a9b3 a9b4 110ba 110bb 11173 11174 111ca 111cb 11236
  11237 112e9 112ea 1133b 1133d 11446 11447 114c3 114c4 115c0 115c1 116b7 116b8 1183a 1183b 11943
  11944 11d42 11d43 1e94a 1e94b; 8 3099 309b; 9 94d 94e 9cd 9ce a4d a4e acd ace b4d b4e bcd bce
  c4d c4e ccd cce d3b d3d d4d d4e dca dcb e3a e3b eba ebb f84 f85 1039 103b 1714 1716 1734 1735
  17d2 17d3 1a60 1a61 1b44 1b45 1baa 1bac 1bf2 1bf4 2d7f 2d80 a806 a807 a82c a82d a8c4 a8c5 a953
  a954 a9c0 a9c1 aaf6 aaf7 abed abee 10a3f 10a40 11046 11047 11070 11071 1107f 11080 110b9 110ba
  11133 11135 111c0 111c1 11235 11236 112ea 112eb 1134d 1134e 113ce 113d1 11442 11443 114c2 114c3
  115bf 115c0 1163f 11640 116b6 116b7 1172b 1172c 11839 1183a 1193d 1193f 119e0 119e1 11a34 11a35
  11a47 11a48 11a99 11a9a 11c3f 11c40 11d44 11d46 11d97 11d98 11f41 11f43 1612f 16130; a 5b0 5b1;
  b 5b1 5b2; c 5b2 5b3; d 5b3 5b4; e 5b4 5b5; f 5b5 5b6; 10 5b6 5b7; 11 5b7 5b8; 12 5b8 5b9 5c7
  5c8; 13 5b9 5bb; 14 5bb 5bc; 15 5bc 5bd; 16 5bd 5be; 17 5bf 5c0; 18 5c1 5c2; 19 5c2 5c3; 1a
  fb1e fb1f; 1b 64b 64c 8f0 8f1; 1c 64c 64d 8f1 8f2; 1d 64d 64e 8f2 8f3; 1e 618 619 64e 64f; 1f
  619 61a 64f 650; 20 61a 61b 650 651; 21 651 652; 22 652 653; 23 670 671; 24 711 712; 54 c55
  c56; 5b c56 c57; 67 e38 e3a; 6b e48 e4c; 76 eb8 eba; 7a ec8 ecc; 81 f71 f72; 82 f72 f73 f7a f7e
  f80 f81; 84 f74 f75; ca 321 323 327 329 1dd0 1dd1; d6 1dce 1dcf; d8 31b 31c f39 f3a 1d165 1d167
  1d16e 1d173; da 1dfa 1dfb 302a 302b; dc 316 31a 31c 321 323 327 329 334 339 33d 347 34a 34d 34f
  353 357 359 35b 591 592 596 597 59b 59c 5a2 5a8 5aa 5ab 5c5 5c6 655 657 65c 65d 65f 660 6e3 6e4
  6ea 6eb 6ed 6ee 731 732 734 735 737 73a 73b 73d 73e 73f 742 743 744 745 746 747 748 749 7f2 7f3
  7fd 7fe 859 85c 899 89c 8cf 8d4 8e3 8e4 8e6 8e7 8e9 8ea 8ed 8f0 8f6 8f7 8f9 8fb 952 953 f18 f1a
  f35 f36 f37 f38 fc6 fc7 108d 108e 193b 193c 1a18 1a19 1a7f 1a80 1ab5 1abb 1abd 1abe 1abf 1ac1
  1ac3 1ac5 1aca 1acb 1add 1ade 1ae6 1ae7 1b6c 1b6d 1cd5 1cda 1cdc 1ce0 1ced 1cee 1dc2 1dc3 1dca
  1dcb 1dcf 1dd0 1df9 1dfa 1dfd 1dfe 1dff 1e00 20e8 20e9 20ec 20f0 a92b a92e aab4 aab5 fe27 fe2e
  101fd 101fe 102e0 102e1 10a0d 10a0e 10a3a 10a3b 10ae6 10ae7 10efa 10efc 10efd 10f00 10f46 10f48
  10f4b 10f4c 10f4d 10f51 10f83 10f84 10f85 10f86 1d17b 1d183 1d18a 1d18c 1e4ee 1e4ef 1e5ef 1e5f0
  1e8d0 1e8d7; de 59a 59b 5ad 5ae 1939 193a 302d 302e; e0 302e 3030; e2 1d16d 1d16e; e4 5ae 5af
  18a9 18aa 1df7 1df9 302b 302c; e6 300 315 33d 340 342 343 346 347 34a 34d 350 353 357 358 35b
  35c 363 370 483 488 592 596 597 59a 59c 5a2 5a8 5aa 5ab 5ad 5af 5b0 5c4 5c5 610 618 653 655 657
  65c 65d 65f 6d6 6dd 6df 6e3 6e4 6e5 6e7 6e9 6eb 6ed 730 731 732 734 735 737 73a 73b 73d 73e 73f
  742 743 744 745 746 747 748 749 74b 7eb 7f2 7f3 7f4 816 81a 81b 824 825 828 829 82e 897 899 89c
  8a0 8ca 8cf 8d4 8e2 8e4 8e6 8e7 8e9 8ea 8ed 8f3 8f6 8f7 8f9 8fb 900 951 952 953 955 9fe 9ff f82
  f84 f86 f88 135d 1360 17dd 17de 193a 193b 1a17 1a18 1a75 1a7d 1ab0 1ab5 1abb 1abd 1ac1 1ac3
  1ac5 1aca 1acb 1add 1ae0 1ae6 1ae7 1aeb 1b6b 1b6c 1b6d 1b74 1cd0 1cd3 1cda 1cdc 1ce0 1ce1 1cf4
  1cf5 1cf8 1cfa 1dc0 1dc2 1dc3 1dca 1dcb 1dcd 1dd1 1df6 1dfb 1dfc 1dfe 1dff 20d0 20d2 20d4 20d8
  20db 20dd 20e1 20e2 20e7 20e8 20e9 20ea 20f0 20f1 2cef 2cf2 2de0 2e00 a66f a670 a674 a67e a69e
  a6a0 a6f0 a6f2 a8e0 a8f2 aab0 aab1 aab2 aab4 aab7 aab9 aabe aac0 aac1 aac2 fe20 fe27 fe2e fe30
  10376 1037b 10a0f 10a10 10a38 10a39 10ae5 10ae6 10d24 10d28 10d69 10d6e 10eab 10ead 10f48 10f4b
  10f4c 10f4d 10f82 10f83 10f84 10f85 11100 11103 11366 1136d 11370 11375 1145e 1145f 16b30 16b37
  1d185 1d18a 1d1aa 1d1ae 1d242 1d245 1e000 1e007 1e008 1e019 1e01b 1e022 1e023 1e025 1e026 1e02b
  1e08f 1e090 1e130 1e137 1e2ae 1e2af 1e2ec 1e2f0 1e4ef 1e4f0 1e5ee 1e5ef 1e6e3 1e6e4 1e6e6 1e6e7
  1e6ee 1e6f0 1e6f5 1e6f6 1e944 1e94a; e8 315 316 31a 31b 358 359 1df6 1df7 302c 302d 1e4ec
  1e4ee; e9 35c 35d 35f 360 362 363 1dfc 1dfd; ea 35d 35f 360 362 1aeb 1aec 1dcd 1dce; f0 345
  346;"

/-- The classes with the boundaries of their ranges. -/
def combiningClasses : Array (Nat × Array Nat) :=
  (Table.rows combiningClassText).filterMap fun
    | number :: boundaries => some (number, boundaries.toArray)
    | [] => none

/-- The combining class of a character. -/
def combiningClass (c : Char) : Nat :=
  if c.toNat < 768 then 0
  else
    match combiningClasses.find? fun row => insideRanges row.2 c.toNat with
    | some row => row.1
    | none => 0

/-- Is it a mark that silences a vowel? -/
def isVirama (c : Char) : Bool := combiningClass c = 9

end ProcessGraph.Text
