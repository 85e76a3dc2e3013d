import PostRules.Regex.Tables.Basic

/-!
# Script extensions

The code points whose script extensions include each script, Unicode 15.0.
-/

namespace PostRules.Regex.Tables

/-- The script extensions, by canonical script name. -/
def scriptExtensions : List PropertyTable := [
  { name := "Adlam", aliases := ["adlm", "adlam"],
    ranges :=
      "61f 20 1e2bf.4b 4.9 4.1" },
  { name := "Ahom", aliases := ["ahom"],
    ranges :=
      "11700.1a 2.e 4.16" },
  { name := "Anatolian_Hieroglyphs", aliases := ["hluw", "anatolianhieroglyphs"],
    ranges :=
      "14400.246" },
  { name := "Arabic", aliases := ["arab", "arabic"],
    ranges :=
      "600.4 1.d6 1.21 50.2f f0.1e 1.1 6.49 1.1c f250.72 10.1bc 2.35 7 20.f 70.4 1.86 3e3.1b " ++
      "b64.1e 7e.2 df00.3 1.1a 1.1 1 2 1.9 1.3 1 1 6 4 1 1 1.2 1.1 1 2 1 1 1 1 1.1 1 2.3 1.6 1.3 " ++
      "1.3 1 1.9 1.10 5.2 1.4 1.10 34.1" },
  { name := "Armenian", aliases := ["armn", "armenian"],
    ranges :=
      "531.25 2.31 2.2 f583.4" },
  { name := "Avestan", aliases := ["avst", "avestan"],
    ranges :=
      "10b00.35 3.6" },
  { name := "Balinese", aliases := ["bali", "balinese"],
    ranges :=
      "1b00.4c 3.2e" },
  { name := "Bamum", aliases := ["bamu", "bamum"],
    ranges :=
      "a6a0.57 c108.238" },
  { name := "Bassa_Vah", aliases := ["bass", "bassavah"],
    ranges :=
      "16ad0.1d 2.5" },
  { name := "Batak", aliases := ["batk", "batak"],
    ranges :=
      "1bc0.33 8.3" },
  { name := "Bengali", aliases := ["beng", "bengali"],
    ranges :=
      "951.1 11.1 1a.3 1.7 2.1 2.15 1.6 1 3.3 2.8 2.1 2.3 8 4.1 1.4 2.18 12d1 1 2.1 1 8 8 2 4 2.2 " ++
      "8bf9" },
  { name := "Bhaiksuki", aliases := ["bhks", "bhaiksuki"],
    ranges :=
      "11c00.8 1.2c 1.d a.1c" },
  { name := "Bopomofo", aliases := ["bopo", "bopomofo"],
    ranges :=
      "2ea.1 2d15.2 4.9 1.c a.3 2 6 c3 9.2a 70.1f cc85.1 11a.4" },
  { name := "Brahmi", aliases := ["brah", "brahmi"],
    ranges :=
      "11000.4d 4.23 9" },
  { name := "Braille", aliases := ["brai", "braille"],
    ranges :=
      "2800.ff" },
  { name := "Buginese", aliases := ["bugi", "buginese"],
    ranges :=
      "1a00.1b 2.1 8faf" },
  { name := "Buhid", aliases := ["buhd", "buhid"],
    ranges :=
      "1735.1 9.13" },
  { name := "Canadian_Aboriginal", aliases := ["cans", "canadianaboriginal"],
    ranges :=
      "1400.27f 230.45 101ba.f" },
  { name := "Carian", aliases := ["cari", "carian"],
    ranges :=
      "102a0.30" },
  { name := "Caucasian_Albanian", aliases := ["aghb", "caucasianalbanian"],
    ranges :=
      "10530.33 b" },
  { name := "Chakma", aliases := ["cakm", "chakma"],
    ranges :=
      "9e6.9 650.9 100b6.34 1.11" },
  { name := "Cham", aliases := ["cham"],
    ranges :=
      "aa00.36 9.d 2.9 2.3" },
  { name := "Cherokee", aliases := ["cher", "cherokee"],
    ranges :=
      "13a0.55 2.5 9772.4f" },
  { name := "Chorasmian", aliases := ["chrs", "chorasmian"],
    ranges :=
      "10fb0.1b" },
  { name := "Common", aliases := ["zyyy", "common"],
    ranges :=
      "0.40 1a.5 1a.2e 1.e 1.4 17 1f 1c1.26 5.4 2.13 74 9 6 1 27d d7 204 55c 195.3 712.2 912.b " ++
      "2.20 1.34 1.a 3.a 1.e 11.20 3f.25 1.2 2.5 1.1a 1.10 29.2 4.296 19.a 15.39f 100.273 2.1f " ++
      "1.68 200.42 1.19 192.b 4 3 d d 15 211.17 1f 31.e c.3 a1.9 5.5f 1f 19c0.3f 5908.19 66.2 3d0 " ++
      "e.1 52a4.9 16.14 2.b 1.12 1.3 93 1.1f 1a.5 1a.5 7f.6 1.6 a.4 192.c 33.2c cd53.73 3c.f5 " ++
      "a.26 2.3d 3.10 8.1 7.1d 4.3c d5.13 c.13 c.56 1b.6 87.54 1.46 1.1 2 2.1 2.3 1.b 1 1.6 1.40 " ++
      "1.3 2.7 1.6 1.1b 1.3 1.4 1 3.6 1.153 2.123 2.31 1471.43 4c.3c 2c2.2b 4.63 c.e 2.e 1.e 1.24 " ++
      "a.ad 38.19 1.1 d.2b 4.8 17.5 9a.3d7 4.10 3.c 3.76 4.5e 6.b 4 f.b 4.37 8.9 6.27 8.1d 2.1 " ++
      "4e.153 c.d 2.c 3.8 7.2d 1.6 8.d 4.8 7.8 7.92 1.36 25.9 c0407 1e.5f" },
  { name := "Coptic", aliases := ["copt", "coptic", "qaac"],
    ranges :=
      "3e2.d 2890.73 5.6 d5e0.1b" },
  { name := "Cuneiform", aliases := ["xsux", "cuneiform"],
    ranges :=
      "12000.399 66.6e 1.4 b.c3" },
  { name := "Cypriot", aliases := ["cprt", "cypriot"],
    ranges :=
      "10100.2 4.2c 3.8 6c0.5 2 1.2b 1.1 3 2" },
  { name := "Cypro_Minoan", aliases := ["cpmn", "cyprominoan"],
    ranges :=
      "10100.1 2e8e.62" },
  { name := "Cyrillic", aliases := ["cyrl", "cyrillic"],
    ranges :=
      "400.12f 1750.8 a2 4c 7f fe7.1f 43 77fc.5f 578e.1 e200.3d 21" },
  { name := "Deseret", aliases := ["dsrt", "deseret"],
    ranges :=
      "10400.4f" },
  { name := "Devanagari", aliases := ["deva", "devanagari"],
    ranges :=
      "900.52 2.2a 1350.26 1.1 3f6 873f.9 a6.1f 7200.9" },
  { name := "Dives_Akuru", aliases := ["diak", "divesakuru"],
    ranges :=
      "11900.6 2 2.7 1.1 1.1d 1.1 2.b 9.9" },
  { name := "Dogra", aliases := ["dogr", "dogra"],
    ranges :=
      "964.b 9ec0.9 6fc6.3b" },
  { name := "Duployan", aliases := ["dupl", "duployan"],
    ranges :=
      "1bc00.6a 5.c 3.8 7.9 2.7" },
  { name := "Egyptian_Hieroglyphs", aliases := ["egyp", "egyptianhieroglyphs"],
    ranges :=
      "13000.455" },
  { name := "Elbasan", aliases := ["elba", "elbasan"],
    ranges :=
      "10500.27" },
  { name := "Elymaic", aliases := ["elym", "elymaic"],
    ranges :=
      "10fe0.16" },
  { name := "Ethiopic", aliases := ["ethi", "ethiopic"],
    ranges :=
      "1200.48 1.3 2.6 1 1.3 2.28 1.3 2.20 1.3 2.6 1 1.3 2.e 1.38 1.3 2.42 2.1f 3.19 19e6.16 9.6 " ++
      "1.6 1.6 1.6 1.6 1.6 1.6 1.6 7d22.5 2.5 2.5 9.6 1.6 13cb1.6 1.3 1.1 1.e" },
  { name := "Georgian", aliases := ["geor", "georgian"],
    ranges :=
      "10a0.25 1 5 2.2f b90.2a 2.2 1040.25 1 5" },
  { name := "Glagolitic", aliases := ["glag", "glagolitic"],
    ranges :=
      "484 2 2778.5f 1e3 782b 13990.6 1.10 2.6 1.1 1.4" },
  { name := "Gothic", aliases := ["goth", "gothic"],
    ranges :=
      "10330.1a" },
  { name := "Grantha", aliases := ["gran", "grantha"],
    ranges :=
      "951.1 11.1 280.d 10dc 1.1 1e.2 3.1 3f6 f20f.3 1.7 2.1 2.15 1.6 1.1 1.4 1.9 2.1 2.2 2 6 5.6 " ++
      "2.6 3.4 c5b.1 1" },
  { name := "Greek", aliases := ["grek", "greek"],
    ranges :=
      "342 2 2a.3 1.2 2.3 1 4 1 1.2 1 1.13 1.3e e.f 1926.4 32.4 4.4 54.2 13e.15 2.5 2.25 2.5 2.7 " ++
      "1 1 1 1.1e 2.34 1.e 1.d 2.5 1.12 2.2 1.8 127 8a3e 55da.4e 11 d05f.45" },
  { name := "Gujarati", aliases := ["gujr", "gujarati"],
    ranges :=
      "951.1 11.1 11b.2 1.8 1.2 1.15 1.6 1.1 1.4 2.9 1.2 1.2 2 f.3 2.b 7.6 9d30.9" },
  { name := "Gunjala_Gondi", aliases := ["gong", "gunjalagondi"],
    ranges :=
      "964.1 113fa.5 1.1 1.24 1.1 1.5 7.9" },
  { name := "Gurmukhi", aliases := ["guru", "gurmukhi"],
    ranges :=
      "951.1 11.1 9b.2 1.5 4.1 2.15 1.6 1.1 1.1 1.1 2 1.4 4.1 2.2 3 7.3 1 7.10 9db9.9" },
  { name := "Han", aliases := ["hani", "han"],
    ranges :=
      "2e80.19 1.58 c.d5 2b.2 1.c 1.c 1.c 2 6.8 bb 94.f 20.23 3c.27 38.30 f.b 33 58.18 a.4 60.1e " ++
      "1.19bf 40.51ff 700.7 51f8.16d 2.69 36b.1 11a.4 707c.1 c.1 636e.11 1ede.1 dae.a6df 20.1039 " ++
      "6.dd 2.1681 e.1d30 c1f.21d 5e2.134a 5.105f" },
  { name := "Hangul", aliases := ["hang", "hangul"],
    ranges :=
      "1100.ff 1e01.2 4.9 1.c e.2 6 c3 35.5d 71.1e 41.1e 76e1.1c 283.2ba3 c.16 4.30 2649.1 11a.4 " ++
      "3a.1e 3.5 2.5 2.5 2.2" },
  { name := "Hanifi_Rohingya", aliases := ["rohg", "hanifirohingya"],
    ranges :=
      "60c e 3 20 93 1062b.27 8.9" },
  { name := "Hanunoo", aliases := ["hano", "hanunoo"],
    ranges :=
      "1720.16" },
  { name := "Hatran", aliases := ["hatr", "hatran"],
    ranges :=
      "108e0.12 1.1 5.4" },
  { name := "Hebrew", aliases := ["hebr", "hebrew"],
    ranges :=
      "591.36 8.1a 4.5 f528.19 1.4 1 1.1 1.1 1.9" },
  { name := "Hiragana", aliases := ["hira", "hiragana"],
    ranges :=
      "3001.2 4.9 1.c 10.5 1 4.1 3.55 2.7 5a.1 cd48.1 11a.4 a 2d.1 b061.11e 12 1d.2 40ad" },
  { name := "Imperial_Aramaic", aliases := ["armi", "imperialaramaic"],
    ranges :=
      "10840.15 1.8" },
  { name := "Inherited", aliases := ["zinh", "inherited", "qaai"],
    ranges :=
      "300.41 1.1 1.1c 5f0.1 115b.1e 2f3.35 1 1.4 20c.1 c2.1f dd10.f 10.d 3cf cd02.2d 2.16 220.2 " ++
      "11.7 2.6 1e.3 c2f52.ef" },
  { name := "Inscriptional_Pahlavi", aliases := ["phli", "inscriptionalpahlavi"],
    ranges :=
      "10b60.12 5.7" },
  { name := "Inscriptional_Parthian", aliases := ["prti", "inscriptionalparthian"],
    ranges :=
      "10b40.15 2.7" },
  { name := "Javanese", aliases := ["java", "javanese"],
    ranges :=
      "a980.4d 1.a 4.1" },
  { name := "Kaithi", aliases := ["kthi", "kaithi"],
    ranges :=
      "966.9 9ec0.9 6846.42 a" },
  { name := "Kannada", aliases := ["knda", "kannada"],
    ranges :=
      "951.1 11.1 31a.c 1.2 1.16 1.9 1.4 2.8 1.2 1.3 7.1 6.1 1.3 2.9 1.2 fdc 1 7 17 1 8b3b.5" },
  { name := "Katakana", aliases := ["kana", "katakana"],
    ranges :=
      "3001.2 4.9 1.c 10.5 1 4.1 5b.3 3.5f f0.f d0.2e 1.57 caed.1 11a.3e b050.3 1.6 1.1 1 11f.2 " ++
      "32 e.3" },
  { name := "Kawi", aliases := ["kawi"],
    ranges :=
      "11f00.10 1.28 3.1b" },
  { name := "Kayah_Li", aliases := ["kali", "kayahli"],
    ranges :=
      "a900.2f" },
  { name := "Kharoshthi", aliases := ["khar", "kharoshthi"],
    ranges :=
      "10a00.3 1.1 5.7 1.2 1.1c 2.2 4.9 7.8" },
  { name := "Khitan_Small_Script", aliases := ["kits", "khitansmallscript"],
    ranges :=
      "16fe4 1b1b.1d5" },
  { name := "Khmer", aliases := ["khmr", "khmer"],
    ranges :=
      "1780.5d 2.9 6.9 1e6.1f" },
  { name := "Khojki", aliases := ["khoj", "khojki"],
    ranges :=
      "ae6.9 9d40.9 69c6.11 1.2e" },
  { name := "Khudawadi", aliases := ["sind", "khudawadi"],
    ranges :=
      "964.1 9eca.9 6a76.3a 5.9" },
  { name := "Lao", aliases := ["laoo", "lao"],
    ranges :=
      "e81.1 1 1.4 1.17 1 1.16 2.4 1 1.6 1.9 2.3" },
  { name := "Latin", aliases := ["latn", "latin"],
    ranges :=
      "41.19 6.19 2f f 5.16 1.1e 1.1c0 27.4 7e.c 115.1 4ca.1 7a8 c04.25 6.30 5.3 5.c 1.45 41.ff " ++
      "12f 41 d 10.c 53 39.1 6 1b 11.28 ad7.1f 7a80.7 1a.65 3.3f 5.1 1 1.4 18.d 12e 201.2a 1.8 " ++
      "1.3 4f96.6 41a.19 6.19 825.5 1.29 1.8 d745.1e 6.5" },
  { name := "Lepcha", aliases := ["lepc", "lepcha"],
    ranges :=
      "1c00.37 3.e 3.2" },
  { name := "Limbu", aliases := ["limb", "limbu"],
    ranges :=
      "965 f9a.1e 1.b 4.b 4 3.b" },
  { name := "Linear_A", aliases := ["lina", "lineara"],
    ranges :=
      "10107.2c 4cc.136 9.15 a.7" },
  { name := "Linear_B", aliases := ["linb", "linearb"],
    ranges :=
      "10000.b 1.19 1.12 1.1 1.e 2.d 22.7a 5.2 4.2c 3.8" },
  { name := "Lisu", aliases := ["lisu"],
    ranges :=
      "a4d0.2f 7ab0" },
  { name := "Lycian", aliases := ["lyci", "lycian"],
    ranges :=
      "10280.1c" },
  { name := "Lydian", aliases := ["lydi", "lydian"],
    ranges :=
      "10920.19 5" },
  { name := "Mahajani", aliases := ["mahj", "mahajani"],
    ranges :=
      "964.b 9ec0.9 6916.26" },
  { name := "Makasar", aliases := ["maka", "makasar"],
    ranges :=
      "11ee0.18" },
  { name := "Malayalam", aliases := ["mlym", "malayalam"],
    ranges :=
      "951.1 11.1 39a.c 1.2 1.32 1.2 1.5 4.f 2.19 f5a 8b55.2" },
  { name := "Mandaic", aliases := ["mand", "mandaic"],
    ranges :=
      "640 1ff.1b 2" },
  { name := "Manichaean", aliases := ["mani", "manichaean"],
    ranges :=
      "640 1047f.26 4.b" },
  { name := "Marchen", aliases := ["marc", "marchen"],
    ranges :=
      "11c70.1f 2.15 1.d" },
  { name := "Masaram_Gondi", aliases := ["gonm", "masaramgondi"],
    ranges :=
      "964.1 1139a.6 1.1 1.2b 3 1.1 1.8 8.9" },
  { name := "Medefaidrin", aliases := ["medf", "medefaidrin"],
    ranges :=
      "16e40.5a" },
  { name := "Meetei_Mayek", aliases := ["mtei", "meeteimayek"],
    ranges :=
      "aae0.16 c9.2d 2.9" },
  { name := "Mende_Kikakui", aliases := ["mend", "mendekikakui"],
    ranges :=
      "1e800.c4 2.f" },
  { name := "Meroitic_Cursive", aliases := ["merc", "meroiticcursive"],
    ranges :=
      "109a0.17 4.13 2.2d" },
  { name := "Meroitic_Hieroglyphs", aliases := ["mero", "meroitichieroglyphs"],
    ranges :=
      "10980.1f" },
  { name := "Miao", aliases := ["plrd", "miao"],
    ranges :=
      "16f00.4a 4.38 7.10" },
  { name := "Modi", aliases := ["modi"],
    ranges :=
      "a830.9 6dc6.44 b.9" },
  { name := "Mongolian", aliases := ["mong", "mongolian"],
    ranges :=
      "1800.19 6.58 7.2a 784 f630.c" },
  { name := "Mro", aliases := ["mroo", "mro"],
    ranges :=
      "16a40.1e 1.9 4.1" },
  { name := "Multani", aliases := ["mult", "multani"],
    ranges :=
      "a66.9 10810.6 1 1.3 1.e 1.a" },
  { name := "Myanmar", aliases := ["mymr", "myanmar"],
    ranges :=
      "1000.9f 988e b1.1e 61.1f" },
  { name := "Nabataean", aliases := ["nbat", "nabataean"],
    ranges :=
      "10880.1e 8.8" },
  { name := "Nag_Mundari", aliases := ["nagm", "nagmundari"],
    ranges :=
      "1e4d0.29" },
  { name := "Nandinagari", aliases := ["nand", "nandinagari"],
    ranges :=
      "964.1 380.9 ff9 8 7 8b35.5 716a.7 2.2d 2.a" },
  { name := "New_Tai_Lue", aliases := ["talu", "newtailue"],
    ranges :=
      "1980.2b 4.19 6.a 3.1" },
  { name := "Newa", aliases := ["newa"],
    ranges :=
      "11400.5b 1.4" },
  { name := "Nko", aliases := ["nkoo", "nko"],
    ranges :=
      "60c e 3 1a0.3a 2.2 f53e.1" },
  { name := "Nushu", aliases := ["nshu", "nushu"],
    ranges :=
      "16fe1 418e.18b" },
  { name := "Nyiakeng_Puachue_Hmong", aliases := ["hmnp", "nyiakengpuachuehmong"],
    ranges :=
      "1e100.2c 3.d 2.9 4.1" },
  { name := "Ogham", aliases := ["ogam", "ogham"],
    ranges :=
      "1680.1c" },
  { name := "Ol_Chiki", aliases := ["olck", "olchiki"],
    ranges :=
      "1c50.2f" },
  { name := "Old_Hungarian", aliases := ["hung", "oldhungarian"],
    ranges :=
      "10c80.32 d.32 7.5" },
  { name := "Old_Italic", aliases := ["ital", "olditalic"],
    ranges :=
      "10300.23 9.2" },
  { name := "Old_North_Arabian", aliases := ["narb", "oldnortharabian"],
    ranges :=
      "10a80.1f" },
  { name := "Old_Permic", aliases := ["perm", "oldpermic"],
    ranges :=
      "483 fecc.2a" },
  { name := "Old_Persian", aliases := ["xpeo", "oldpersian"],
    ranges :=
      "103a0.23 4.d" },
  { name := "Old_Sogdian", aliases := ["sogo", "oldsogdian"],
    ranges :=
      "10f00.27" },
  { name := "Old_South_Arabian", aliases := ["sarb", "oldsoutharabian"],
    ranges :=
      "10a60.1f" },
  { name := "Old_Turkic", aliases := ["orkh", "oldturkic"],
    ranges :=
      "10c00.48" },
  { name := "Old_Uyghur", aliases := ["ougr", "olduyghur"],
    ranges :=
      "640 104b1 47d.19" },
  { name := "Oriya", aliases := ["orya", "oriya"],
    ranges :=
      "951.1 11.1 19b.2 1.7 2.1 2.15 1.6 1.1 1.4 2.8 2.1 2.2 7.2 4.1 1.4 2.11 1162 17" },
  { name := "Osage", aliases := ["osge", "osage"],
    ranges :=
      "104b0.23 4.23" },
  { name := "Osmanya", aliases := ["osma", "osmanya"],
    ranges :=
      "10480.1d 2.9" },
  { name := "Pahawh_Hmong", aliases := ["hmng", "pahawhhmong"],
    ranges :=
      "16b00.45 a.9 1.6 1.14 5.12" },
  { name := "Palmyrene", aliases := ["palm", "palmyrene"],
    ranges :=
      "10860.1f" },
  { name := "Pau_Cin_Hau", aliases := ["pauc", "paucinhau"],
    ranges :=
      "11ac0.38" },
  { name := "Phags_Pa", aliases := ["phag", "phagspa"],
    ranges :=
      "1802.1 1 903a.37" },
  { name := "Phoenician", aliases := ["phnx", "phoenician"],
    ranges :=
      "10900.1b 3" },
  { name := "Psalter_Pahlavi", aliases := ["phlp", "psalterpahlavi"],
    ranges :=
      "640 1053f.11 7.3 c.6" },
  { name := "Rejang", aliases := ["rjng", "rejang"],
    ranges :=
      "a930.23 b" },
  { name := "Runic", aliases := ["runr", "runic"],
    ranges :=
      "16a0.4a 3.a" },
  { name := "Samaritan", aliases := ["samr", "samaritan"],
    ranges :=
      "800.2d 2.e" },
  { name := "Saurashtra", aliases := ["saur", "saurashtra"],
    ranges :=
      "a880.45 8.b" },
  { name := "Sharada", aliases := ["shrd", "sharada"],
    ranges :=
      "951 1385 1 2.1 2 f49f.5f" },
  { name := "Shavian", aliases := ["shaw", "shavian"],
    ranges :=
      "10450.2f" },
  { name := "Siddham", aliases := ["sidd", "siddham"],
    ranges :=
      "11580.35 2.25" },
  { name := "SignWriting", aliases := ["sgnw", "signwriting"],
    ranges :=
      "1d800.28b f.4 1.e" },
  { name := "Sinhala", aliases := ["sinh", "sinhala"],
    ranges :=
      "964.1 41b.2 1.11 3.17 1.8 1 2.6 3 4.5 1 1.7 6.9 2.2 103ec.13" },
  { name := "Sogdian", aliases := ["sogd", "sogdian"],
    ranges :=
      "640 108ef.29" },
  { name := "Sora_Sompeng", aliases := ["sora", "sorasompeng"],
    ranges :=
      "110d0.18 7.9" },
  { name := "Soyombo", aliases := ["soyo", "soyombo"],
    ranges :=
      "11a50.52" },
  { name := "Sundanese", aliases := ["sund", "sundanese"],
    ranges :=
      "1b80.3f 100.7" },
  { name := "Syloti_Nagri", aliases := ["sylo", "sylotinagri"],
    ranges :=
      "964.1 80.9 9e10.2c" },
  { name := "Syriac", aliases := ["syrc", "syriac"],
    ranges :=
      "60c e.1 2 20 a.a 1a 8f.d 1.3b 2.2 110.a 158d 1" },
  { name := "Tagalog", aliases := ["tglg", "tagalog"],
    ranges :=
      "1700.15 9 15.1" },
  { name := "Tagbanwa", aliases := ["tagb", "tagbanwa"],
    ranges :=
      "1735.1 29.c 1.2 1.1" },
  { name := "Tai_Le", aliases := ["tale", "taile"],
    ranges :=
      "1040.9 906.1d 2.4" },
  { name := "Tai_Tham", aliases := ["lana", "taitham"],
    ranges :=
      "1a20.3e 1.1c 2.a 6.9 6.d" },
  { name := "Tai_Viet", aliases := ["tavt", "taiviet"],
    ranges :=
      "aa80.42 18.4" },
  { name := "Takri", aliases := ["takr", "takri"],
    ranges :=
      "964.1 9eca.9 6e46.39 6.9" },
  { name := "Tamil", aliases := ["taml", "tamil"],
    ranges :=
      "951.1 11.1 21c.1 1.5 3.2 1.3 3.1 1 1.1 3.1 3.2 3.b 4.4 3.2 1.3 2 6 e.14 10df 8c18 6a0d 1 " ++
      "37.1 c83.31 d" },
  { name := "Tangsa", aliases := ["tnsa", "tangsa"],
    ranges :=
      "16a70.4e 1.9" },
  { name := "Tangut", aliases := ["tang", "tangut"],
    ranges :=
      "16fe0 1f.17f7 8.2ff 200.8" },
  { name := "Telugu", aliases := ["telu", "telugu"],
    ranges :=
      "951.1 11.1 29a.c 1.2 1.16 1.f 2.8 1.2 1.3 7.1 1.2 2 2.3 2.9 7.8 105a 17" },
  { name := "Thaana", aliases := ["thaa", "thaana"],
    ranges :=
      "60c e.1 2 40.9 116.31 f640 a" },
  { name := "Thai", aliases := ["thai"],
    ranges :=
      "e01.39 5.1b" },
  { name := "Tibetan", aliases := ["tibt", "tibetan"],
    ranges :=
      "f00.47 1.23 4.26 1.23 1.e 1.6 4.1" },
  { name := "Tifinagh", aliases := ["tfng", "tifinagh"],
    ranges :=
      "2d30.37 7.1 e" },
  { name := "Tirhuta", aliases := ["tirh", "tirhuta"],
    ranges :=
      "951.1 11.1 138c 8b3d.9 6c46.47 8.9" },
  { name := "Toto", aliases := ["toto"],
    ranges :=
      "1e290.1e" },
  { name := "Ugaritic", aliases := ["ugar", "ugaritic"],
    ranges :=
      "10380.1d 1" },
  { name := "Vai", aliases := ["vaii", "vai"],
    ranges :=
      "a500.12b" },
  { name := "Vithkuqi", aliases := ["vith", "vithkuqi"],
    ranges :=
      "10570.a 1.e 1.6 1.1 1.a 1.e 1.6 1.1" },
  { name := "Wancho", aliases := ["wcho", "wancho"],
    ranges :=
      "1e2c0.39 5" },
  { name := "Warang_Citi", aliases := ["wara", "warangciti"],
    ranges :=
      "118a0.52 c" },
  { name := "Yezidi", aliases := ["yezi", "yezidi"],
    ranges :=
      "60c e 3 40.9 10816.29 1.2 2.1" },
  { name := "Yi", aliases := ["yiii", "yi"],
    ranges :=
      "3001.1 5.9 2.7 df 6f04.48c 3.36 5a9a.4" },
  { name := "Zanabazar_Square", aliases := ["zanb", "zanabazarsquare"],
    ranges :=
      "11a00.47" }]

end PostRules.Regex.Tables
