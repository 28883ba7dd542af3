import ValueAssertions.Unicode.Table

/-!
# Script extensions

The characters that are used with a script, for the scripts where they differ from
the characters of the script itself.
-/

namespace ValueAssertions.Unicode

/-- The scripts whose extensions differ from their characters. -/
def scriptExtensions : List NamedSet := [
  ⟨["adlm", "adlam"],
    [
      "1567 1 32 1 6670 1 3569 1 113342 76 4 10 4 2"]⟩,
  ⟨["arab", "arabic"],
    [
      "1536 5 1 215 1 34 80 48 240 31 1 2 5 75 1 29 5967 1 3569 1 52494 115 16 445 2 54 7 1 32",
      "16 112 5 1 135 995 28 2916 31 67 3 55 4 57088 4 1 27 1 2 1 1 2 1 1 10 1 4 1 1 1 1 6 1 4",
      "1 1 1 1 1 1 3 1 2 1 1 2 1 1 1 1 1 1 1 1 1 1 2 1 1 2 4 1 7 1 4 1 4 1 1 1 10 1 17 5 3 1 5",
      "1 17 52 2"]⟩,
  ⟨["armn", "armenian"],
    [
      "776 1 552 38 2 50 2 3 62851 5"]⟩,
  ⟨["avst", "avestan"],
    [
      "183 1 11640 2 56526 54 3 7"]⟩,
  ⟨["beng", "bengali"],
    [
      "700 1 1684 2 17 2 26 4 1 8 2 2 2 22 1 7 1 1 3 4 2 9 2 2 2 4 8 1 4 2 1 5 2 25 4817 1 1 1",
      "2 2 1 1 8 1 8 1 2 1 4 1 2 3 35833 1"]⟩,
  ⟨["bopo", "bopomofo"],
    [
      "711 1 1 3 13 1 16 2 11541 3 4 10 1 13 10 4 2 1 6 1 195 1 9 43 112 32 52357 2 282 5"]⟩,
  ⟨["bugi", "buginese"],
    [
      "6656 28 2 2 36783 1"]⟩,
  ⟨["buhd", "buhid"],
    [
      "5941 2 9 20"]⟩,
  ⟨["cari", "carian"],
    [
      "183 1 8098 1 2 1 3539 1 54382 49"]⟩,
  ⟨["aghb", "caucasianalbanian"],
    [
      "772 1 44 1 44 1 66001 52 11 1"]⟩,
  ⟨["cakm", "chakma"],
    [
      "2534 10 1616 10 65718 53 1 18"]⟩,
  ⟨["cher", "cherokee"],
    [
      "768 3 1 1 6 2 22 2 11 2 4206 86 2 6 38770 80"]⟩,
  ⟨["zyyy", "common"],
    [
      "0 65 26 6 26 47 1 12 1 2 1 5 23 1 31 1 449 3 1 10 1 1 3 1 1 9 1 1 1 6 5 5 2 20 126 1 6 1",
      "1 1 637 1 215 1 516 1 1372 1 405 4 4135 12 2 33 1 31 1 10 1 2 1 7 1 11 3 11 1 15 17 33",
      "63 38 1 3 2 6 1 27 1 17 41 3 4 666 22 11 21 928 256 628 2 32 1 105 512 23 1 24 2 10 1 4",
      "1 1 1 26 418 1 3 1 13 1 13 1 21 1 529 24 31 1 49 15 12 4 161 10 5 96 31 1 6592 64 22792",
      "26 102 3 976 1 14 2 21156 10 22 21 2 12 1 19 1 4 147 1 1 32 26 6 26 6 127 7 1 7 10 5 402",
      "13 51 45 51715 250 6 436 156 116 60 246 10 39 2 62 3 17 8 2 7 30 4 61 213 20 12 20 12 87",
      "27 7 135 85 1 71 1 2 2 1 2 2 2 4 1 12 1 1 1 7 1 65 1 4 2 8 1 7 1 28 1 4 1 5 1 1 3 7 1",
      "340 2 292 2 50 5233 68 76 61 706 44 4 100 12 15 2 15 1 15 1 37 10 174 56 26 1 2 13 44 4",
      "9 23 6 154 984 4 17 3 13 3 119 4 95 6 12 4 1 15 12 4 56 8 10 6 40 8 30 2 12 4 2 62 340",
      "12 14 2 13 3 10 5 56 7 15 2 11 6 9 7 147 1 102 787463 1 30 96"]⟩,
  ⟨["copt", "qaac", "coptic"],
    [
      "183 1 584 1 3 2 1 1 108 2 108 14 10384 116 5 7 279 1 54472 28"]⟩,
  ⟨["cprt", "cypriot"],
    [
      "65792 3 4 45 3 9 1728 6 2 1 1 44 1 2 3 1 2 1"]⟩,
  ⟨["cpmn", "cyprominoan"],
    [
      "65792 2 11918 99"]⟩,
  ⟨["cyrl", "cyrillic"],
    [
      "700 1 67 3 1 1 1 1 1 1 2 1 5 1 238 304 5968 11 160 1 76 1 127 1 4071 32 67 1 30716 96",
      "22414 2 57856 62 33 1"]⟩,
  ⟨["deva", "devanagari"],
    [
      "700 1 1603 83 2 43 4944 39 1 2 1014 1 34623 10 166 32 29184 10"]⟩,
  ⟨["dogr", "dogra"],
    [
      "2404 12 40640 10 28614 60"]⟩,
  ⟨["dupl", "duployan"],
    [
      "183 1 591 2 1 1 24 2 11031 1 101827 107 5 13 3 9 7 10 2 8"]⟩,
  ⟨["elba", "elbasan"],
    [
      "183 1 589 1 66042 40"]⟩,
  ⟨["ethi", "ethiopic"],
    [
      "782 1 3825 73 1 4 2 7 1 1 1 4 2 41 1 4 2 33 1 4 2 7 1 1 1 4 2 15 1 57 1 4 2 67 2 32 3 26",
      "6630 23 9 7 1 7 1 7 1 7 1 7 1 7 1 7 1 7 32034 6 2 6 2 6 9 7 1 7 81073 7 1 4 1 2 1 15"]⟩,
  ⟨["gara", "garay"],
    [
      "1548 1 14 1 3 1 67360 38 3 29 8 2"]⟩,
  ⟨["geor", "georgian"],
    [
      "183 1 1233 1 2838 38 1 1 5 1 2 48 2960 43 2 3 922 1 3237 38 1 1 5 1 259 1"]⟩,
  ⟨["glag", "glagolitic"],
    [
      "183 1 587 1 1 1 382 1 2 1 257 1 2929 1 3934 1 2981 96 483 1 30763 1 80272 7 1 17 2 7 1 2",
      "1 5"]⟩,
  ⟨["goth", "gothic"],
    [
      "183 1 588 2 2 1 40 1 65534 27"]⟩,
  ⟨["gran", "grantha"],
    [
      "2385 2 17 2 640 14 4316 1 1 2 30 3 3 2 1014 1 61967 4 1 8 2 2 2 22 1 7 1 2 1 5 1 10 2 2",
      "2 3 2 1 6 1 5 7 2 7 3 5 3163 2 1 1"]⟩,
  ⟨["grek", "greek"],
    [
      "183 1 584 2 2 1 1 1 1 1 10 1 46 1 2 1 42 8 2 4 1 1 4 1 1 1 1 3 1 1 1 20 1 63 14 16 6438",
      "5 50 5 4 5 84 3 318 22 2 6 2 38 2 6 2 8 1 1 1 1 1 1 1 31 2 53 1 15 1 14 2 6 1 19 2 3 1 9",
      "94 1 200 1 35390 1 21978 79 17 1 53343 70"]⟩,
  ⟨["gujr", "gujarati"],
    [
      "2385 2 17 2 283 3 1 9 1 3 1 22 1 7 1 2 1 5 2 10 1 3 1 3 2 1 15 4 2 12 7 7 40240 10"]⟩,
  ⟨["gong", "gunjalagondi"],
    [
      "183 1 2220 2 70650 6 1 2 1 37 1 2 1 6 7 10"]⟩,
  ⟨["guru", "gurmukhi"],
    [
      "2385 2 17 2 155 3 1 6 4 2 2 22 1 7 1 2 1 2 1 2 2 1 1 5 4 2 2 3 3 1 7 4 1 1 7 17 40377 10"]⟩,
  ⟨["gukh", "gurungkhema"],
    [
      "2405 1 87962 58"]⟩,
  ⟨["han", "hani"],
    [
      "183 1 11720 26 1 89 12 214 26 16 1 3 1 13 1 13 1 13 2 1 6 9 187 1 148 16 32 38 9 1 48 40",
      "56 49 15 12 51 1 88 25 10 5 96 31 1 6592 64 20992 1792 8 20984 366 2 106 875 2 282 5",
      "28796 2 12 2 25454 18 7902 2 3502 42720 32 4154 6 222 2 5762 14 7473 15 622 2466 542",
      "1506 4939 5 4192"]⟩,
  ⟨["hang", "hangul"],
    [
      "4352 256 7681 3 4 10 1 13 14 3 6 1 195 1 53 94 113 31 65 31 30433 29 643 11172 12 23 4",
      "49 9801 2 282 5 58 31 3 6 2 6 2 6 2 3"]⟩,
  ⟨["rohg", "hanifirohingya"],
    [
      "1548 1 14 1 3 1 32 1 147 1 67115 40 8 10"]⟩,
  ⟨["hano", "hanunoo"],
    [
      "5920 23"]⟩,
  ⟨["hebr", "hebrew"],
    [
      "775 2 648 55 8 27 4 6 62760 26 1 5 1 1 1 2 1 2 1 10"]⟩,
  ⟨["hira", "hiragana"],
    [
      "12289 3 4 10 1 13 16 6 1 1 4 2 3 86 2 8 90 2 52552 2 282 5 10 1 45 2 45153 287 18 1 29 3",
      "16557 1"]⟩,
  ⟨["qaai", "zinh", "inherited"],
    [
      "783 1 2 1 1 12 1 2 3 7 2 1 2 16 1 2 1 18 1 5 1 4 1520 2 4443 31 755 54 1 1 1 5 524 2 194",
      "32 56592 16 16 14 975 1 52482 46 2 23 544 3 17 8 2 7 30 4 798546 240"]⟩,
  ⟨["java", "javanese"],
    [
      "43392 78 1 11 4 2"]⟩,
  ⟨["kthi", "kaithi"],
    [
      "2406 10 9409 1 31230 10 26694 67 10 1"]⟩,
  ⟨["knda", "kannada"],
    [
      "2385 2 17 2 794 13 1 3 1 23 1 10 1 5 2 9 1 3 1 4 7 2 6 2 1 4 2 10 1 3 4060 1 1 2 6 1 23",
      "1 1 1 35643 6"]⟩,
  ⟨["kana", "katakana"],
    [
      "773 1 29 1 11485 3 4 10 1 13 16 6 1 1 4 2 91 4 3 96 240 16 208 47 1 88 51949 2 282 63",
      "45136 4 1 7 1 2 1 1 287 3 50 1 14 4"]⟩,
  ⟨["kali", "kayahli"],
    [
      "43264 48"]⟩,
  ⟨["khoj", "khojki"],
    [
      "2790 10 40256 10 27078 18 1 47"]⟩,
  ⟨["sind", "khudawadi"],
    [
      "2404 2 40650 10 27254 59 5 10"]⟩,
  ⟨["latn", "latin"],
    [
      "65 26 6 26 47 1 12 1 2 1 5 23 1 31 1 449 3 1 10 1 1 3 1 1 9 1 1 1 6 5 27 15 1 2 1 1 12 1",
      "2 3 7 2 1 2 38 1 5 1 4 13 277 2 1226 2 1960 1 3076 38 6 49 5 4 5 13 1 70 57 1 7 256 303",
      "1 65 1 13 1 16 13 83 1 57 2 6 1 27 1 17 41 2775 32 407 1 30952 8 26 102 3 67 2 2 1 1 1 8",
      "21 14 302 1 513 43 1 9 1 4 20374 7 1050 26 6 26 2085 6 1 42 1 9 55109 31 6 6"]⟩,
  ⟨["limb", "limbu"],
    [
      "2405 1 3994 31 1 12 4 12 4 1 3 12"]⟩,
  ⟨["lina", "lineara"],
    [
      "65799 45 1228 311 9 22 10 8"]⟩,
  ⟨["linb", "linearb"],
    [
      "65536 12 1 26 1 19 1 2 1 15 2 14 34 123 5 3 4 45 3 9"]⟩,
  ⟨["lisu"],
    [
      "700 1 16 1 11580 2 29892 48 31408 1"]⟩,
  ⟨["lyci", "lycian"],
    [
      "8282 1 57893 29"]⟩,
  ⟨["lydi", "lydian"],
    [
      "183 1 11641 1 56046 26 5 1"]⟩,
  ⟨["mahj", "mahajani"],
    [
      "183 1 2220 12 40640 10 26902 39"]⟩,
  ⟨["mlym", "malayalam"],
    [
      "2385 2 17 2 922 13 1 3 1 51 1 3 1 6 4 16 2 26 3930 1 23 1 35645 3"]⟩,
  ⟨["mand", "mandaic"],
    [
      "1600 1 511 28 2 1"]⟩,
  ⟨["mani", "manichaean"],
    [
      "1600 1 66687 39 4 12"]⟩,
  ⟨["gonm", "masaramgondi"],
    [
      "2404 2 70554 7 1 2 1 44 3 1 1 2 1 9 8 10"]⟩,
  ⟨["mero", "meroitichieroglyphs"],
    [
      "8285 1 59682 32"]⟩,
  ⟨["modi"],
    [
      "43056 10 28102 69 11 10"]⟩,
  ⟨["mong", "mongolian"],
    [
      "6144 26 6 89 7 43 1924 1 4049 2 5 4 58964 13"]⟩,
  ⟨["mult", "multani"],
    [
      "2662 10 67600 7 1 1 1 4 1 15 1 11"]⟩,
  ⟨["mymr", "myanmar"],
    [
      "4096 160 39054 1 177 31 97 32 27728 20"]⟩,
  ⟨["nand", "nandinagari"],
    [
      "2404 2 896 10 4089 1 8 1 7 1 35637 6 29034 8 2 46 2 11"]⟩,
  ⟨["nko", "nkoo"],
    [
      "1548 1 14 1 3 1 416 59 2 3 62782 2"]⟩,
  ⟨["onao", "olonal"],
    [
      "2404 2 121962 43 4 1"]⟩,
  ⟨["hung", "oldhungarian"],
    [
      "8282 1 2 1 3539 1 15 1 56894 51 13 51 7 6"]⟩,
  ⟨["perm", "oldpermic"],
    [
      "183 1 584 1 5 3 10 1 367 1 65228 43"]⟩,
  ⟨["orkh", "oldturkic"],
    [
      "8282 1 3541 1 56783 73"]⟩,
  ⟨["ougr", "olduyghur"],
    [
      "1600 1 66737 1 1149 26"]⟩,
  ⟨["orya", "oriya"],
    [
      "2385 2 17 2 411 3 1 8 2 2 2 22 1 7 1 2 1 5 2 9 2 2 2 3 7 3 4 2 1 5 2 18 4450 1 23 1"]⟩,
  ⟨["osge", "osage"],
    [
      "769 1 2 1 6 1 76 1 65879 36 4 36"]⟩,
  ⟨["phag", "phagspa"],
    [
      "6146 2 1 1 2089 1 4050 1 30781 56"]⟩,
  ⟨["phlp", "psalterpahlavi"],
    [
      "1600 1 66879 18 7 4 12 7"]⟩,
  ⟨["runr", "runic"],
    [
      "5792 89"]⟩,
  ⟨["samr", "samaritan"],
    [
      "2048 46 2 15 9714 1"]⟩,
  ⟨["shrd", "sharada"],
    [
      "2385 1 4997 1 1 1 2 2 2 1 35663 6 2 1 26951 96"]⟩,
  ⟨["shaw", "shavian"],
    [
      "183 1 66456 48"]⟩,
  ⟨["sinh", "sinhala"],
    [
      "2404 2 1051 3 1 18 3 24 1 9 1 1 2 7 3 1 4 6 1 1 1 8 6 10 2 3 3837 1 62702 20"]⟩,
  ⟨["sogd", "sogdian"],
    [
      "1600 1 67823 42"]⟩,
  ⟨["sunu", "sunuwar"],
    [
      "768 2 1 1 9 1 2 1 28 1 3 1 71822 34 14 10"]⟩,
  ⟨["sylo", "sylotinagri"],
    [
      "2404 2 128 10 40464 45"]⟩,
  ⟨["syrc", "syriac"],
    [
      "771 2 2 2 1 1 21 1 2 3 7 2 1 1 731 1 14 2 2 1 32 1 10 11 26 1 143 14 1 60 2 3 272 11",
      "5517 1 1 1"]⟩,
  ⟨["tglg", "tagalog"],
    [
      "5888 22 9 1 21 2"]⟩,
  ⟨["tagb", "tagbanwa"],
    [
      "5941 2 41 13 1 3 1 2"]⟩,
  ⟨["tale", "taile"],
    [
      "768 2 5 2 3 1 3379 10 2310 30 2 5"]⟩,
  ⟨["takr", "takri"],
    [
      "2404 2 40650 10 28230 58 6 10"]⟩,
  ⟨["taml", "tamil"],
    [
      "2385 2 17 2 540 2 1 6 3 3 1 4 3 2 1 1 1 2 3 2 3 3 3 12 4 5 3 3 1 4 2 1 6 1 14 21 4319 1",
      "35864 1 27149 1 1 1 55 2 3203 50 13 1"]⟩,
  ⟨["tang", "tangut"],
    [
      "12272 16 495 1 81392 1 31 6136 8 768 512 9"]⟩,
  ⟨["telu", "telugu"],
    [
      "2385 2 17 2 666 13 1 3 1 23 1 16 2 9 1 3 1 4 7 2 1 3 2 1 2 4 2 10 7 9 4186 1 23 1"]⟩,
  ⟨["thaa", "thaana"],
    [
      "1548 1 14 2 2 1 64 10 278 50 63040 1 10 1"]⟩,
  ⟨["thai"],
    [
      "700 1 26 1 43 1 45 1 2767 58 5 28"]⟩,
  ⟨["tibt", "tibetan"],
    [
      "3840 72 1 36 4 39 1 36 1 15 1 7 4 2 8237 4"]⟩,
  ⟨["tfng", "tifinagh"],
    [
      "770 1 1 1 2 1 1 1 10790 56 7 2 14 1"]⟩,
  ⟨["tirh", "tirhuta"],
    [
      "2385 2 17 2 5004 1 35645 10 27718 72 8 10"]⟩,
  ⟨["todr", "todhri"],
    [
      "769 1 2 1 2 1 9 1 1 1 74 1 66145 52"]⟩,
  ⟨["toto"],
    [
      "700 1 122835 31"]⟩,
  ⟨["tutg", "tulutigalari"],
    [
      "3302 10 4098 1 1 1 35643 6 187 1 27278 10 1 1 2 1 1 38 1 10 1 1 2 1 1 4 1 10 1 2 8 2"]⟩,
  ⟨["yezi", "yezidi"],
    [
      "1548 1 14 1 3 1 64 10 67606 42 1 3 2 2"]⟩,
  ⟨["yi", "yiii"],
    [
      "12289 2 5 10 2 8 223 1 28420 1165 3 55 23194 5"]⟩]

end ValueAssertions.Unicode
