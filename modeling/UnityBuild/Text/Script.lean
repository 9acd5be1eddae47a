import UnityBuild.Text.Runs

/-!
# Scripts

Every code point belongs to one script, or to none that has a name. A script has a code of four
letters and a long name. The table is that of version 16 of the standard.
-/

namespace UnityBuild.Text.Script

def names : List (String × String) := [
    ("Adlm", "Adlam"), ("Aghb", "Caucasian_Albanian"), ("Ahom", "Ahom"), ("Arab", "Arabic"),
    ("Armi", "Imperial_Aramaic"), ("Armn", "Armenian"), ("Avst", "Avestan"), ("Bali", "Balinese"),
    ("Bamu", "Bamum"), ("Bass", "Bassa_Vah"), ("Batk", "Batak"), ("Beng", "Bengali"),
    ("Bhks", "Bhaiksuki"), ("Bopo", "Bopomofo"), ("Brah", "Brahmi"), ("Brai", "Braille"),
    ("Bugi", "Buginese"), ("Buhd", "Buhid"), ("Cakm", "Chakma"), ("Cans", "Canadian_Aboriginal"),
    ("Cari", "Carian"), ("Cham", "Cham"), ("Cher", "Cherokee"), ("Chrs", "Chorasmian"),
    ("Copt", "Coptic"), ("Cpmn", "Cypro_Minoan"), ("Cprt", "Cypriot"), ("Cyrl", "Cyrillic"),
    ("Deva", "Devanagari"), ("Diak", "Dives_Akuru"), ("Dogr", "Dogra"), ("Dsrt", "Deseret"),
    ("Dupl", "Duployan"), ("Egyp", "Egyptian_Hieroglyphs"), ("Elba", "Elbasan"),
    ("Elym", "Elymaic"), ("Ethi", "Ethiopic"), ("Gara", "Garay"), ("Geor", "Georgian"),
    ("Glag", "Glagolitic"), ("Gong", "Gunjala_Gondi"), ("Gonm", "Masaram_Gondi"),
    ("Goth", "Gothic"), ("Gran", "Grantha"), ("Grek", "Greek"), ("Gujr", "Gujarati"),
    ("Gukh", "Gurung_Khema"), ("Guru", "Gurmukhi"), ("Hang", "Hangul"), ("Hani", "Han"),
    ("Hano", "Hanunoo"), ("Hatr", "Hatran"), ("Hebr", "Hebrew"), ("Hira", "Hiragana"),
    ("Hluw", "Anatolian_Hieroglyphs"), ("Hmng", "Pahawh_Hmong"), ("Hmnp", "Nyiakeng_Puachue_Hmong"),
    ("Hung", "Old_Hungarian"), ("Ital", "Old_Italic"), ("Java", "Javanese"), ("Kali", "Kayah_Li"),
    ("Kana", "Katakana"), ("Kawi", "Kawi"), ("Khar", "Kharoshthi"), ("Khmr", "Khmer"),
    ("Khoj", "Khojki"), ("Kits", "Khitan_Small_Script"), ("Knda", "Kannada"), ("Krai", "Kirat_Rai"),
    ("Kthi", "Kaithi"), ("Lana", "Tai_Tham"), ("Laoo", "Lao"), ("Latn", "Latin"),
    ("Lepc", "Lepcha"), ("Limb", "Limbu"), ("Lina", "Linear_A"), ("Linb", "Linear_B"),
    ("Lisu", "Lisu"), ("Lyci", "Lycian"), ("Lydi", "Lydian"), ("Mahj", "Mahajani"),
    ("Maka", "Makasar"), ("Mand", "Mandaic"), ("Mani", "Manichaean"), ("Marc", "Marchen"),
    ("Medf", "Medefaidrin"), ("Mend", "Mende_Kikakui"), ("Merc", "Meroitic_Cursive"),
    ("Mero", "Meroitic_Hieroglyphs"), ("Mlym", "Malayalam"), ("Modi", "Modi"),
    ("Mong", "Mongolian"), ("Mroo", "Mro"), ("Mtei", "Meetei_Mayek"), ("Mult", "Multani"),
    ("Mymr", "Myanmar"), ("Nagm", "Nag_Mundari"), ("Nand", "Nandinagari"),
    ("Narb", "Old_North_Arabian"), ("Nbat", "Nabataean"), ("Newa", "Newa"), ("Nkoo", "Nko"),
    ("Nshu", "Nushu"), ("Ogam", "Ogham"), ("Olck", "Ol_Chiki"), ("Onao", "Ol_Onal"),
    ("Orkh", "Old_Turkic"), ("Orya", "Oriya"), ("Osge", "Osage"), ("Osma", "Osmanya"),
    ("Ougr", "Old_Uyghur"), ("Palm", "Palmyrene"), ("Pauc", "Pau_Cin_Hau"), ("Perm", "Old_Permic"),
    ("Phag", "Phags_Pa"), ("Phli", "Inscriptional_Pahlavi"), ("Phlp", "Psalter_Pahlavi"),
    ("Phnx", "Phoenician"), ("Plrd", "Miao"), ("Prti", "Inscriptional_Parthian"),
    ("Rjng", "Rejang"), ("Rohg", "Hanifi_Rohingya"), ("Runr", "Runic"), ("Samr", "Samaritan"),
    ("Sarb", "Old_South_Arabian"), ("Saur", "Saurashtra"), ("Sgnw", "SignWriting"),
    ("Shaw", "Shavian"), ("Shrd", "Sharada"), ("Sidd", "Siddham"), ("Sind", "Khudawadi"),
    ("Sinh", "Sinhala"), ("Sogd", "Sogdian"), ("Sogo", "Old_Sogdian"), ("Sora", "Sora_Sompeng"),
    ("Soyo", "Soyombo"), ("Sund", "Sundanese"), ("Sunu", "Sunuwar"), ("Sylo", "Syloti_Nagri"),
    ("Syrc", "Syriac"), ("Tagb", "Tagbanwa"), ("Takr", "Takri"), ("Tale", "Tai_Le"),
    ("Talu", "New_Tai_Lue"), ("Taml", "Tamil"), ("Tang", "Tangut"), ("Tavt", "Tai_Viet"),
    ("Telu", "Telugu"), ("Tfng", "Tifinagh"), ("Tglg", "Tagalog"), ("Thaa", "Thaana"),
    ("Thai", "Thai"), ("Tibt", "Tibetan"), ("Tirh", "Tirhuta"), ("Tnsa", "Tangsa"),
    ("Todr", "Todhri"), ("Toto", "Toto"), ("Tutg", "Tulu_Tigalari"), ("Ugar", "Ugaritic"),
    ("Vaii", "Vai"), ("Vith", "Vithkuqi"), ("Wara", "Warang_Citi"), ("Wcho", "Wancho"),
    ("Xpeo", "Old_Persian"), ("Xsux", "Cuneiform"), ("Yezi", "Yezidi"), ("Yiii", "Yi"),
    ("Zanb", "Zanabazar_Square"), ("Zinh", "Inherited"), ("Zyyy", "Common")]

def aliases : List (String × String) := [("Qaac", "Copt"), ("Qaai", "Zinh")]

/-- What has a code and a name like a script but is the script of no code point. -/
def unused : List (String × String) :=
  [("Hrkt", "Katakana_Or_Hiragana"), ("Zzzz", "Unknown")]

/-- The table, from the first code point to the last. -/
def lines : List String := [
    "65Zyyy 26Latn 6Zyyy 26Latn 47Zyyy 1Latn 15Zyyy 1Latn 5Zyyy 23Latn 1Zyyy 31Latn 1Zyyy 449Latn",
    "39Zyyy 5Latn 5Zyyy 2Bopo 20Zyyy 112Zinh 4Grek 1Zyyy 3Grek 2Zzzz 4Grek 1Zyyy 1Grek 4Zzzz 1Grek",
    "1Zyyy 1Grek 1Zyyy 3Grek 1Zzzz 1Grek 1Zzzz 20Grek 1Zzzz 63Grek 14Copt 16Grek 133Cyrl 2Zinh",
    "169Cyrl 1Zzzz 38Armn 2Zzzz 50Armn 2Zzzz 3Armn 1Zzzz 55Hebr 8Zzzz 27Hebr 4Zzzz 6Hebr 11Zzzz",
    "5Arab 1Zyyy 6Arab 1Zyyy 14Arab 1Zyyy 3Arab 1Zyyy 32Arab 1Zyyy 10Arab 11Zinh 26Arab 1Zinh",
    "108Arab 1Zyyy 34Arab 14Syrc 1Zzzz 60Syrc 2Zzzz 3Syrc 48Arab 50Thaa 14Zzzz 59Nkoo 2Zzzz 3Nkoo",
    "46Samr 2Zzzz 15Samr 1Zzzz 28Mand 2Zzzz 1Mand 1Zzzz 11Syrc 5Zzzz 31Arab 1Zzzz 2Arab 5Zzzz",
    "75Arab 1Zyyy 29Arab 81Deva 4Zinh 15Deva 2Zyyy 26Deva 4Beng 1Zzzz 8Beng 2Zzzz 2Beng 2Zzzz",
    "22Beng 1Zzzz 7Beng 1Zzzz 1Beng 3Zzzz 4Beng 2Zzzz 9Beng 2Zzzz 2Beng 2Zzzz 4Beng 8Zzzz 1Beng",
    "4Zzzz 2Beng 1Zzzz 5Beng 2Zzzz 25Beng 2Zzzz 3Guru 1Zzzz 6Guru 4Zzzz 2Guru 2Zzzz 22Guru 1Zzzz",
    "7Guru 1Zzzz 2Guru 1Zzzz 2Guru 1Zzzz 2Guru 2Zzzz 1Guru 1Zzzz 5Guru 4Zzzz 2Guru 2Zzzz 3Guru",
    "3Zzzz 1Guru 7Zzzz 4Guru 1Zzzz 1Guru 7Zzzz 17Guru 10Zzzz 3Gujr 1Zzzz 9Gujr 1Zzzz 3Gujr 1Zzzz",
    "22Gujr 1Zzzz 7Gujr 1Zzzz 2Gujr 1Zzzz 5Gujr 2Zzzz 10Gujr 1Zzzz 3Gujr 1Zzzz 3Gujr 2Zzzz 1Gujr",
    "15Zzzz 4Gujr 2Zzzz 12Gujr 7Zzzz 7Gujr 1Zzzz 3Orya 1Zzzz 8Orya 2Zzzz 2Orya 2Zzzz 22Orya 1Zzzz",
    "7Orya 1Zzzz 2Orya 1Zzzz 5Orya 2Zzzz 9Orya 2Zzzz 2Orya 2Zzzz 3Orya 7Zzzz 3Orya 4Zzzz 2Orya",
    "1Zzzz 5Orya 2Zzzz 18Orya 10Zzzz 2Taml 1Zzzz 6Taml 3Zzzz 3Taml 1Zzzz 4Taml 3Zzzz 2Taml 1Zzzz",
    "1Taml 1Zzzz 2Taml 3Zzzz 2Taml 3Zzzz 3Taml 3Zzzz 12Taml 4Zzzz 5Taml 3Zzzz 3Taml 1Zzzz 4Taml",
    "2Zzzz 1Taml 6Zzzz 1Taml 14Zzzz 21Taml 5Zzzz 13Telu 1Zzzz 3Telu 1Zzzz 23Telu 1Zzzz 16Telu",
    "2Zzzz 9Telu 1Zzzz 3Telu 1Zzzz 4Telu 7Zzzz 2Telu 1Zzzz 3Telu 2Zzzz 1Telu 2Zzzz 4Telu 2Zzzz",
    "10Telu 7Zzzz 9Telu 13Knda 1Zzzz 3Knda 1Zzzz 23Knda 1Zzzz 10Knda 1Zzzz 5Knda 2Zzzz 9Knda 1Zzzz",
    "3Knda 1Zzzz 4Knda 7Zzzz 2Knda 6Zzzz 2Knda 1Zzzz 4Knda 2Zzzz 10Knda 1Zzzz 3Knda 12Zzzz 13Mlym",
    "1Zzzz 3Mlym 1Zzzz 51Mlym 1Zzzz 3Mlym 1Zzzz 6Mlym 4Zzzz 16Mlym 2Zzzz 26Mlym 1Zzzz 3Sinh 1Zzzz",
    "18Sinh 3Zzzz 24Sinh 1Zzzz 9Sinh 1Zzzz 1Sinh 2Zzzz 7Sinh 3Zzzz 1Sinh 4Zzzz 6Sinh 1Zzzz 1Sinh",
    "1Zzzz 8Sinh 6Zzzz 10Sinh 2Zzzz 3Sinh 12Zzzz 58Thai 4Zzzz 1Zyyy 28Thai 37Zzzz 2Laoo 1Zzzz",
    "1Laoo 1Zzzz 5Laoo 1Zzzz 24Laoo 1Zzzz 1Laoo 1Zzzz 23Laoo 2Zzzz 5Laoo 1Zzzz 1Laoo 1Zzzz 7Laoo",
    "1Zzzz 10Laoo 2Zzzz 4Laoo 32Zzzz 72Tibt 1Zzzz 36Tibt 4Zzzz 39Tibt 1Zzzz 36Tibt 1Zzzz 15Tibt",
    "1Zzzz 7Tibt 4Zyyy 2Tibt 37Zzzz 160Mymr 38Geor 1Zzzz 1Geor 5Zzzz 1Geor 2Zzzz 43Geor 1Zyyy",
    "4Geor 256Hang 73Ethi 1Zzzz 4Ethi 2Zzzz 7Ethi 1Zzzz 1Ethi 1Zzzz 4Ethi 2Zzzz 41Ethi 1Zzzz 4Ethi",
    "2Zzzz 33Ethi 1Zzzz 4Ethi 2Zzzz 7Ethi 1Zzzz 1Ethi 1Zzzz 4Ethi 2Zzzz 15Ethi 1Zzzz 57Ethi 1Zzzz",
    "4Ethi 2Zzzz 67Ethi 2Zzzz 32Ethi 3Zzzz 26Ethi 6Zzzz 86Cher 2Zzzz 6Cher 2Zzzz 640Cans 29Ogam",
    "3Zzzz 75Runr 3Zyyy 11Runr 7Zzzz 22Tglg 9Zzzz 1Tglg 21Hano 2Zyyy 9Zzzz 20Buhd 12Zzzz 13Tagb",
    "1Zzzz 3Tagb 1Zzzz 2Tagb 12Zzzz 94Khmr 2Zzzz 10Khmr 6Zzzz 10Khmr 6Zzzz 2Mong 2Zyyy 1Mong 1Zyyy",
    "20Mong 6Zzzz 89Mong 7Zzzz 43Mong 5Zzzz 70Cans 10Zzzz 31Limb 1Zzzz 12Limb 4Zzzz 12Limb 4Zzzz",
    "1Limb 3Zzzz 12Limb 30Tale 2Zzzz 5Tale 11Zzzz 44Talu 4Zzzz 26Talu 6Zzzz 11Talu 3Zzzz 2Talu",
    "32Khmr 28Bugi 2Zzzz 2Bugi 63Lana 1Zzzz 29Lana 2Zzzz 11Lana 6Zzzz 10Lana 6Zzzz 14Lana 2Zzzz",
    "31Zinh 49Zzzz 77Bali 1Zzzz 50Bali 64Sund 52Batk 8Zzzz 4Batk 56Lepc 3Zzzz 15Lepc 3Zzzz 3Lepc",
    "48Olck 11Cyrl 5Zzzz 43Geor 2Zzzz 3Geor 8Sund 8Zzzz 3Zinh 1Zyyy 13Zinh 1Zyyy 7Zinh 4Zyyy 1Zinh",
    "6Zyyy 1Zinh 3Zyyy 2Zinh 1Zyyy 5Zzzz 38Latn 5Grek 1Cyrl 49Latn 5Grek 4Latn 5Grek 13Latn 1Cyrl",
    "70Latn 1Grek 64Zinh 256Latn 22Grek 2Zzzz 6Grek 2Zzzz 38Grek 2Zzzz 6Grek 2Zzzz 8Grek 1Zzzz",
    "1Grek 1Zzzz 1Grek 1Zzzz 1Grek 1Zzzz 31Grek 2Zzzz 53Grek 1Zzzz 15Grek 1Zzzz 14Grek 2Zzzz 6Grek",
    "1Zzzz 19Grek 2Zzzz 3Grek 1Zzzz 9Grek 1Zzzz 12Zyyy 2Zinh 87Zyyy 1Zzzz 11Zyyy 1Latn 2Zzzz",
    "11Zyyy 1Latn 15Zyyy 1Zzzz 13Latn 3Zzzz 33Zyyy 15Zzzz 33Zinh 15Zzzz 38Zyyy 1Grek 3Zyyy 2Latn",
    "6Zyyy 1Latn 27Zyyy 1Latn 17Zyyy 41Latn 3Zyyy 4Zzzz 666Zyyy 22Zzzz 11Zyyy 21Zzzz 928Zyyy",
    "256Brai 628Zyyy 2Zzzz 32Zyyy 1Zzzz 105Zyyy 96Glag 32Latn 116Copt 5Zzzz 7Copt 38Geor 1Zzzz",
    "1Geor 5Zzzz 1Geor 2Zzzz 56Tfng 7Zzzz 2Tfng 14Zzzz 1Tfng 23Ethi 9Zzzz 7Ethi 1Zzzz 7Ethi 1Zzzz",
    "7Ethi 1Zzzz 7Ethi 1Zzzz 7Ethi 1Zzzz 7Ethi 1Zzzz 7Ethi 1Zzzz 7Ethi 1Zzzz 32Cyrl 94Zyyy 34Zzzz",
    "26Hani 1Zzzz 89Hani 12Zzzz 214Hani 26Zzzz 21Zyyy 1Hani 1Zyyy 1Hani 25Zyyy 9Hani 4Zinh 2Hang",
    "8Zyyy 4Hani 4Zyyy 1Zzzz 86Hira 2Zzzz 2Zinh 2Zyyy 3Hira 1Zyyy 90Kana 2Zyyy 3Kana 5Zzzz 43Bopo",
    "1Zzzz 94Hang 1Zzzz 16Zyyy 32Bopo 38Zyyy 9Zzzz 1Zyyy 16Kana 31Hang 1Zzzz 64Zyyy 31Hang 81Zyyy",
    "47Kana 1Zyyy 88Kana 168Zyyy 6592Hani 64Zyyy 20992Hani 1165Yiii 3Zzzz 55Yiii 9Zzzz 48Lisu",
    "300Vaii 20Zzzz 96Cyrl 88Bamu 8Zzzz 34Zyyy 102Latn 3Zyyy 67Latn 2Zzzz 2Latn 1Zzzz 1Latn 1Zzzz",
    "8Latn 21Zzzz 14Latn 45Sylo 3Zzzz 10Zyyy 6Zzzz 56Phag 8Zzzz 70Saur 8Zzzz 12Saur 6Zzzz 32Deva",
    "46Kali 1Zyyy 1Kali 36Rjng 11Zzzz 1Rjng 29Hang 3Zzzz 78Java 1Zzzz 1Zyyy 10Java 4Zzzz 2Java",
    "31Mymr 1Zzzz 55Cham 9Zzzz 14Cham 2Zzzz 10Cham 2Zzzz 4Cham 32Mymr 67Tavt 24Zzzz 5Tavt 23Mtei",
    "10Zzzz 6Ethi 2Zzzz 6Ethi 2Zzzz 6Ethi 9Zzzz 7Ethi 1Zzzz 7Ethi 1Zzzz 43Latn 1Zyyy 9Latn 1Grek",
    "4Latn 2Zyyy 4Zzzz 80Cher 46Mtei 2Zzzz 10Mtei 6Zzzz 11172Hang 12Zzzz 23Hang 4Zzzz 49Hang",
    "8452Zzzz 366Hani 2Zzzz 106Hani 38Zzzz 7Latn 12Zzzz 5Armn 5Zzzz 26Hebr 1Zzzz 5Hebr 1Zzzz 1Hebr",
    "1Zzzz 2Hebr 1Zzzz 2Hebr 1Zzzz 10Hebr 115Arab 16Zzzz 363Arab 2Zyyy 80Arab 2Zzzz 54Arab 7Zzzz",
    "1Arab 32Zzzz 16Arab 16Zinh 10Zyyy 6Zzzz 14Zinh 2Cyrl 35Zyyy 1Zzzz 19Zyyy 1Zzzz 4Zyyy 4Zzzz",
    "5Arab 1Zzzz 135Arab 2Zzzz 1Zyyy 1Zzzz 32Zyyy 26Latn 6Zyyy 26Latn 11Zyyy 10Kana 1Zyyy 45Kana",
    "2Zyyy 31Hang 3Zzzz 6Hang 2Zzzz 6Hang 2Zzzz 6Hang 2Zzzz 3Hang 3Zzzz 7Zyyy 1Zzzz 7Zyyy 10Zzzz",
    "5Zyyy 2Zzzz 12Linb 1Zzzz 26Linb 1Zzzz 19Linb 1Zzzz 2Linb 1Zzzz 15Linb 2Zzzz 14Linb 34Zzzz",
    "123Linb 5Zzzz 3Zyyy 4Zzzz 45Zyyy 3Zzzz 9Zyyy 79Grek 1Zzzz 13Zyyy 3Zzzz 1Grek 47Zzzz 45Zyyy",
    "1Zinh 130Zzzz 29Lyci 3Zzzz 49Cari 15Zzzz 1Zinh 27Zyyy 4Zzzz 36Ital 9Zzzz 3Ital 27Goth 5Zzzz",
    "43Perm 5Zzzz 30Ugar 1Zzzz 1Ugar 36Xpeo 4Zzzz 14Xpeo 42Zzzz 80Dsrt 48Shaw 30Osma 2Zzzz 10Osma",
    "6Zzzz 36Osge 4Zzzz 36Osge 4Zzzz 40Elba 8Zzzz 52Aghb 11Zzzz 1Aghb 11Vith 1Zzzz 15Vith 1Zzzz",
    "7Vith 1Zzzz 2Vith 1Zzzz 11Vith 1Zzzz 15Vith 1Zzzz 7Vith 1Zzzz 2Vith 3Zzzz 52Todr 12Zzzz",
    "311Lina 9Zzzz 22Lina 10Zzzz 8Lina 24Zzzz 6Latn 1Zzzz 42Latn 1Zzzz 9Latn 69Zzzz 6Cprt 2Zzzz",
    "1Cprt 1Zzzz 44Cprt 1Zzzz 2Cprt 3Zzzz 1Cprt 2Zzzz 1Cprt 22Armi 1Zzzz 9Armi 32Palm 31Nbat 8Zzzz",
    "9Nbat 48Zzzz 19Hatr 1Zzzz 2Hatr 5Zzzz 5Hatr 28Phnx 3Zzzz 1Phnx 26Lydi 5Zzzz 1Lydi 64Zzzz",
    "32Mero 24Merc 4Zzzz 20Merc 2Zzzz 46Merc 4Khar 1Zzzz 2Khar 5Zzzz 8Khar 1Zzzz 3Khar 1Zzzz",
    "29Khar 2Zzzz 3Khar 4Zzzz 10Khar 7Zzzz 9Khar 7Zzzz 32Sarb 32Narb 32Zzzz 39Mani 4Zzzz 12Mani",
    "9Zzzz 54Avst 3Zzzz 7Avst 22Prti 2Zzzz 8Prti 19Phli 5Zzzz 8Phli 18Phlp 7Zzzz 4Phlp 12Zzzz",
    "7Phlp 80Zzzz 73Orkh 55Zzzz 51Hung 13Zzzz 51Hung 7Zzzz 6Hung 40Rohg 8Zzzz 10Rohg 6Zzzz 38Gara",
    "3Zzzz 29Gara 8Zzzz 2Gara 208Zzzz 31Arab 1Zzzz 42Yezi 1Zzzz 3Yezi 2Zzzz 2Yezi 16Zzzz 3Arab",
    "55Zzzz 4Arab 40Sogo 8Zzzz 42Sogd 22Zzzz 26Ougr 38Zzzz 28Chrs 20Zzzz 23Elym 9Zzzz 78Brah 4Zzzz",
    "36Brah 9Zzzz 1Brah 67Kthi 10Zzzz 1Kthi 2Zzzz 25Sora 7Zzzz 10Sora 6Zzzz 53Cakm 1Zzzz 18Cakm",
    "8Zzzz 39Mahj 9Zzzz 96Shrd 1Zzzz 20Sinh 11Zzzz 18Khoj 1Zzzz 47Khoj 62Zzzz 7Mult 1Zzzz 1Mult",
    "1Zzzz 4Mult 1Zzzz 15Mult 1Zzzz 11Mult 6Zzzz 59Sind 5Zzzz 10Sind 6Zzzz 4Gran 1Zzzz 8Gran 2Zzzz",
    "2Gran 2Zzzz 22Gran 1Zzzz 7Gran 1Zzzz 2Gran 1Zzzz 5Gran 1Zzzz 1Zinh 9Gran 2Zzzz 2Gran 2Zzzz",
    "3Gran 2Zzzz 1Gran 6Zzzz 1Gran 5Zzzz 7Gran 2Zzzz 7Gran 3Zzzz 5Gran 11Zzzz 10Tutg 1Zzzz 1Tutg",
    "2Zzzz 1Tutg 1Zzzz 38Tutg 1Zzzz 10Tutg 1Zzzz 1Tutg 2Zzzz 1Tutg 1Zzzz 4Tutg 1Zzzz 10Tutg 1Zzzz",
    "2Tutg 8Zzzz 2Tutg 29Zzzz 92Newa 1Zzzz 5Newa 30Zzzz 72Tirh 8Zzzz 10Tirh 166Zzzz 54Sidd 2Zzzz",
    "38Sidd 34Zzzz 69Modi 11Zzzz 10Modi 6Zzzz 13Mong 19Zzzz 58Takr 6Zzzz 10Takr 6Zzzz 20Mymr",
    "28Zzzz 27Ahom 2Zzzz 15Ahom 4Zzzz 23Ahom 185Zzzz 60Dogr 100Zzzz 83Wara 12Zzzz 1Wara 7Diak",
    "2Zzzz 1Diak 2Zzzz 8Diak 1Zzzz 2Diak 1Zzzz 30Diak 1Zzzz 2Diak 2Zzzz 12Diak 9Zzzz 10Diak 70Zzzz",
    "8Nand 2Zzzz 46Nand 2Zzzz 11Nand 27Zzzz 72Zanb 8Zzzz 83Soyo 13Zzzz 16Cans 57Pauc 7Zzzz 10Deva",
    "182Zzzz 34Sunu 14Zzzz 10Sunu 6Zzzz 9Bhks 1Zzzz 45Bhks 1Zzzz 14Bhks 10Zzzz 29Bhks 3Zzzz 32Marc",
    "2Zzzz 22Marc 1Zzzz 14Marc 73Zzzz 7Gonm 1Zzzz 2Gonm 1Zzzz 44Gonm 3Zzzz 1Gonm 1Zzzz 2Gonm 1Zzzz",
    "9Gonm 8Zzzz 10Gonm 6Zzzz 6Gong 1Zzzz 2Gong 1Zzzz 37Gong 1Zzzz 2Gong 1Zzzz 6Gong 7Zzzz 10Gong",
    "310Zzzz 25Maka 7Zzzz 17Kawi 1Zzzz 41Kawi 3Zzzz 29Kawi 85Zzzz 1Lisu 15Zzzz 50Taml 13Zzzz 1Taml",
    "922Xsux 102Zzzz 111Xsux 1Zzzz 5Xsux 11Zzzz 196Xsux 2636Zzzz 99Cpmn 13Zzzz 1110Egyp 10Zzzz",
    "3995Egyp 5Zzzz 583Hluw 6841Zzzz 58Gukh 1734Zzzz 569Bamu 7Zzzz 31Mroo 1Zzzz 10Mroo 4Zzzz 2Mroo",
    "79Tnsa 1Zzzz 10Tnsa 6Zzzz 30Bass 2Zzzz 6Bass 10Zzzz 70Hmng 10Zzzz 10Hmng 1Zzzz 7Hmng 1Zzzz",
    "21Hmng 5Zzzz 19Hmng 432Zzzz 58Krai 198Zzzz 91Medf 101Zzzz 75Plrd 4Zzzz 57Plrd 7Zzzz 17Plrd",
    "64Zzzz 1Tang 1Nshu 2Hani 1Kits 11Zzzz 2Hani 14Zzzz 6136Tang 8Zzzz 768Tang 470Kits 41Zzzz",
    "1Kits 9Tang 8935Zzzz 4Kana 1Zzzz 7Kana 1Zzzz 2Kana 1Zzzz 1Kana 287Hira 3Kana 15Zzzz 1Hira",
    "29Zzzz 3Hira 2Zzzz 1Kana 14Zzzz 4Kana 8Zzzz 396Nshu 2308Zzzz 107Dupl 5Zzzz 13Dupl 3Zzzz 9Dupl",
    "7Zzzz 10Dupl 2Zzzz 4Dupl 4Zyyy 3932Zzzz 250Zyyy 6Zzzz 436Zyyy 76Zzzz 46Zinh 2Zzzz 23Zinh",
    "9Zzzz 116Zyyy 60Zzzz 246Zyyy 10Zzzz 39Zyyy 2Zzzz 62Zyyy 3Zinh 17Zyyy 8Zinh 2Zyyy 7Zinh 30Zyyy",
    "4Zinh 61Zyyy 21Zzzz 70Grek 122Zzzz 20Zyyy 12Zzzz 20Zyyy 12Zzzz 87Zyyy 9Zzzz 25Zyyy 135Zzzz",
    "85Zyyy 1Zzzz 71Zyyy 1Zzzz 2Zyyy 2Zzzz 1Zyyy 2Zzzz 2Zyyy 2Zzzz 4Zyyy 1Zzzz 12Zyyy 1Zzzz 1Zyyy",
    "1Zzzz 7Zyyy 1Zzzz 65Zyyy 1Zzzz 4Zyyy 2Zzzz 8Zyyy 1Zzzz 7Zyyy 1Zzzz 28Zyyy 1Zzzz 4Zyyy 1Zzzz",
    "5Zyyy 1Zzzz 1Zyyy 3Zzzz 7Zyyy 1Zzzz 340Zyyy 2Zzzz 292Zyyy 2Zzzz 50Zyyy 652Sgnw 15Zzzz 5Sgnw",
    "1Zzzz 15Sgnw 1104Zzzz 31Latn 6Zzzz 6Latn 213Zzzz 7Glag 1Zzzz 17Glag 2Zzzz 7Glag 1Zzzz 2Glag",
    "1Zzzz 5Glag 5Zzzz 62Cyrl 33Zzzz 1Cyrl 112Zzzz 45Hmnp 3Zzzz 14Hmnp 2Zzzz 10Hmnp 4Zzzz 2Hmnp",
    "320Zzzz 31Toto 17Zzzz 58Wcho 5Zzzz 1Wcho 464Zzzz 42Nagm 214Zzzz 43Onao 4Zzzz 1Onao 480Zzzz",
    "7Ethi 1Zzzz 4Ethi 1Zzzz 2Ethi 1Zzzz 15Ethi 1Zzzz 197Mend 2Zzzz 16Mend 41Zzzz 76Adlm 4Zzzz",
    "10Adlm 4Zzzz 2Adlm 785Zzzz 68Zyyy 76Zzzz 61Zyyy 194Zzzz 4Arab 1Zzzz 27Arab 1Zzzz 2Arab 1Zzzz",
    "1Arab 2Zzzz 1Arab 1Zzzz 10Arab 1Zzzz 4Arab 1Zzzz 1Arab 1Zzzz 1Arab 6Zzzz 1Arab 4Zzzz 1Arab",
    "1Zzzz 1Arab 1Zzzz 1Arab 1Zzzz 3Arab 1Zzzz 2Arab 1Zzzz 1Arab 2Zzzz 1Arab 1Zzzz 1Arab 1Zzzz",
    "1Arab 1Zzzz 1Arab 1Zzzz 1Arab 1Zzzz 2Arab 1Zzzz 1Arab 2Zzzz 4Arab 1Zzzz 7Arab 1Zzzz 4Arab",
    "1Zzzz 4Arab 1Zzzz 1Arab 1Zzzz 10Arab 1Zzzz 17Arab 5Zzzz 3Arab 1Zzzz 5Arab 1Zzzz 17Arab 52Zzzz",
    "2Arab 270Zzzz 44Zyyy 4Zzzz 100Zyyy 12Zzzz 15Zyyy 2Zzzz 15Zyyy 1Zzzz 15Zyyy 1Zzzz 37Zyyy",
    "10Zzzz 174Zyyy 56Zzzz 26Zyyy 1Hira 2Zyyy 13Zzzz 44Zyyy 4Zzzz 9Zyyy 7Zzzz 2Zyyy 14Zzzz 6Zyyy",
    "154Zzzz 984Zyyy 4Zzzz 17Zyyy 3Zzzz 13Zyyy 3Zzzz 119Zyyy 4Zzzz 95Zyyy 6Zzzz 12Zyyy 4Zzzz 1Zyyy",
    "15Zzzz 12Zyyy 4Zzzz 56Zyyy 8Zzzz 10Zyyy 6Zzzz 40Zyyy 8Zzzz 30Zyyy 2Zzzz 12Zyyy 4Zzzz 2Zyyy",
    "62Zzzz 340Zyyy 12Zzzz 14Zyyy 2Zzzz 13Zyyy 3Zzzz 10Zyyy 5Zzzz 56Zyyy 7Zzzz 15Zyyy 2Zzzz 11Zyyy",
    "6Zzzz 9Zyyy 7Zzzz 147Zyyy 1Zzzz 102Zyyy 1030Zzzz 42720Hani 32Zzzz 4154Hani 6Zzzz 222Hani",
    "2Zzzz 5762Hani 14Zzzz 7473Hani 15Zzzz 622Hani 2466Zzzz 542Hani 1506Zzzz 4939Hani 5Zzzz",
    "4192Hani 711761Zzzz 1Zyyy 30Zzzz 96Zyyy 128Zzzz 240Zinh 196112Zzzz"
  ]

def runs : Runs String :=
  .ofLines String.ofList lines

def of (letter : Char) : String :=
  (runs.find? letter.toNat).getD "Zzzz"

def set (code : String) : CodeSet :=
  runs.set (· == code)

end UnityBuild.Text.Script
