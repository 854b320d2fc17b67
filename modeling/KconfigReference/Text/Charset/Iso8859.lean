import KconfigReference.Text.Charset.Basic

/-!
The sets of the standard ISO 8859, which have Latin letters and those of one more region.
-/

namespace KconfigReference.Charset

def latin2 : Charset :=
  singleByte
    ["iso8859_2", "csisolatin2", "iso_8859_2", "iso_8859_2_1987", "iso_ir_101", "l2", "latin2"]
    [(0xa1, "Ą˘Ł"), (0xa5, "ĽŚ"), (0xa9, "ŠŞŤŹ"), (0xae, "ŽŻ"), (0xb1, "ą˛ł"), (0xb5, "ľśˇ"),
      (0xb9, "šşťź˝žżŔ"), (0xc3, "Ă"), (0xc5, "ĹĆ"), (0xc8, "Č"), (0xca, "Ę"), (0xcc, "Ě"),
      (0xcf, "ĎĐŃŇ"), (0xd5, "Ő"), (0xd8, "ŘŮ"), (0xdb, "Ű"), (0xde, "Ţ"), (0xe0, "ŕ"),
      (0xe3, "ă"), (0xe5, "ĺć"), (0xe8, "č"), (0xea, "ę"), (0xec, "ě"), (0xef, "ďđńň"),
      (0xf5, "ő"), (0xf8, "řů"), (0xfb, "ű"), (0xfe, "ţ˙")]

def latin3 : Charset :=
  singleByte
    ["iso8859_3", "csisolatin3", "iso_8859_3", "iso_8859_3_1988", "iso_ir_109", "l3", "latin3"]
    [(0xa1, "Ħ˘"), (0xa5, "\ufffeĤ"), (0xa9, "İŞĞĴ"), (0xae, "\ufffeŻ"), (0xb1, "ħ"), (0xb6, "ĥ"),
      (0xb9, "ışğĵ"), (0xbe, "\ufffeż"), (0xc3, "\ufffe"), (0xc5, "ĊĈ"), (0xd0, "\ufffe"),
      (0xd5, "Ġ"), (0xd8, "Ĝ"), (0xdd, "ŬŜ"), (0xe3, "\ufffe"), (0xe5, "ċĉ"), (0xf0, "\ufffe"),
      (0xf5, "ġ"), (0xf8, "ĝ"), (0xfd, "ŭŝ˙")]

def latin4 : Charset :=
  singleByte
    ["iso8859_4", "csisolatin4", "iso_8859_4", "iso_8859_4_1988", "iso_ir_110", "l4", "latin4"]
    [(0xa1, "ĄĸŖ"), (0xa5, "ĨĻ"), (0xa9, "ŠĒĢŦ"), (0xae, "Ž"), (0xb1, "ą˛ŗ"), (0xb5, "ĩļˇ"),
      (0xb9, "šēģŧŊžŋĀ"), (0xc7, "ĮČ"), (0xca, "Ę"), (0xcc, "Ė"), (0xcf, "ĪĐŅŌĶ"), (0xd9, "Ų"),
      (0xdd, "ŨŪ"), (0xe0, "ā"), (0xe7, "įč"), (0xea, "ę"), (0xec, "ė"), (0xef, "īđņōķ"),
      (0xf9, "ų"), (0xfd, "ũū˙")]

def latinCyrillic : Charset :=
  singleByte
    ["iso8859_5", "csisolatincyrillic", "cyrillic", "iso_8859_5", "iso_8859_5_1988", "iso_ir_144"]
    [(0xa1, "ЁЂЃЄЅІЇЈЉЊЋЌ"),
      (0xae, "ЎЏАБВГДЕЖЗИЙКЛМНОПРСТУФХЦЧШЩЪЫЬЭЮЯабвгдежзийклмнопрстуфхцчшщъыьэюя№ёђѓєѕіїјљњћќ"),
      (0xfd, "§ўџ")]

def latinArabic : Charset :=
  singleByte
    ["iso8859_6", "arabic", "asmo_708", "csisolatinarabic", "ecma_114", "iso_8859_6",
     "iso_8859_6_1987", "iso_ir_127"]
    [(0xa1, "\ufffe\ufffe\ufffe"), (0xa5, "\ufffe\ufffe\ufffe\ufffe\ufffe\ufffe\ufffe،"),
      (0xae, "\ufffe\ufffe\ufffe\ufffe\ufffe\ufffe\ufffe\ufffe\ufffe\ufffe\ufffe\ufffe\ufffe"),
      (0xbb, "\u061b\ufffe\ufffe\ufffe\u061f\ufffe\u0621\u0622\u0623\u0624\u0625\u0626\u0627"),
      (0xc8, "\u0628\u0629\u062a\u062b\u062c\u062d\u062e\u062f\u0630\u0631\u0632\u0633\u0634"),
      (0xd5, "\u0635\u0636\u0637\u0638\u0639\u063a\ufffe\ufffe\ufffe\ufffe\ufffe\u0640\u0641"),
      (0xe2, "\u0642\u0643\u0644\u0645\u0646\u0647\u0648\u0649\u064a\u064b\u064c\u064d\u064e"),
      (0xef, "\u064f\u0650\u0651\u0652\ufffe\ufffe\ufffe\ufffe\ufffe\ufffe\ufffe\ufffe\ufffe"),
      (0xfc, "\ufffe\ufffe\ufffe\ufffe")]

def latinGreek : Charset :=
  singleByte
    ["iso8859_7", "csisolatingreek", "ecma_118", "elot_928", "greek", "greek8", "iso_8859_7",
     "iso_8859_7_1987", "iso_ir_126"]
    [(0xa1, "‘’"), (0xa4, "€₯"), (0xaa, "ͺ"), (0xae, "\ufffe―"), (0xb4, "΄΅Ά"), (0xb8, "ΈΉΊ"),
      (0xbc, "Ό"),
      (0xbe, "ΎΏΐΑΒΓΔΕΖΗΘΙΚΛΜΝΞΟΠΡ\ufffeΣΤΥΦΧΨΩΪΫάέήίΰαβγδεζηθικλμνξοπρςστυφχψωϊϋόύώ\ufffe")]

def latinHebrew : Charset :=
  singleByte
    ["iso8859_8", "csisolatinhebrew", "hebrew", "iso_8859_8", "iso_8859_8_1988", "iso_ir_138"]
    [(0xa1, "\ufffe"), (0xaa, "×"), (0xba, "÷"),
      (0xbf, "\ufffe\ufffe\ufffe\ufffe\ufffe\ufffe\ufffe\ufffe\ufffe\ufffe\ufffe\ufffe\ufffe"),
      (0xcc, "\ufffe\ufffe\ufffe\ufffe\ufffe\ufffe\ufffe\ufffe\ufffe\ufffe\ufffe\ufffe\ufffe"),
      (0xd9, "\ufffe\ufffe\ufffe\ufffe\ufffe\ufffe‗\u05d0\u05d1\u05d2\u05d3\u05d4\u05d5\u05d6"),
      (0xe7, "\u05d7\u05d8\u05d9\u05da\u05db\u05dc\u05dd\u05de\u05df\u05e0\u05e1\u05e2\u05e3"),
      (0xf4, "\u05e4\u05e5\u05e6\u05e7\u05e8\u05e9\u05ea\ufffe\ufffe\u200e\u200f\ufffe")]

def latin5 : Charset :=
  singleByte
    ["iso8859_9", "csisolatin5", "iso_8859_9", "iso_8859_9_1989", "iso_ir_148", "l5", "latin5"]
    [(0xd0, "Ğ"), (0xdd, "İŞ"), (0xf0, "ğ"), (0xfd, "ış")]

def latin6 : Charset :=
  singleByte
    ["iso8859_10", "csisolatin6", "iso_8859_10", "iso_8859_10_1992", "iso_ir_157", "l6", "latin6"]
    [(0xa1, "ĄĒĢĪĨĶ"), (0xa8, "ĻĐŠŦŽ"), (0xae, "ŪŊ"), (0xb1, "ąēģīĩķ"), (0xb8, "ļđšŧž―ūŋĀ"),
      (0xc7, "ĮČ"), (0xca, "Ę"), (0xcc, "Ė"), (0xd1, "ŅŌ"), (0xd7, "Ũ"), (0xd9, "Ų"), (0xe0, "ā"),
      (0xe7, "įč"), (0xea, "ę"), (0xec, "ė"), (0xf1, "ņō"), (0xf7, "ũ"), (0xf9, "ų"), (0xff, "ĸ")]

def latinThai : Charset :=
  singleByte
    ["iso8859_11", "thai", "iso_8859_11", "iso_8859_11_2001"]
    [(0xa1, "กขฃคฅฆงจฉชซฌญฎฏฐฑฒณดตถทธนบปผฝพฟภมยรฤลฦวศษสหฬอฮฯะ\u0e31าำ\u0e34\u0e35\u0e36"),
      (0xd7, "\u0e37\u0e38\u0e39\u0e3a\ufffe\ufffe\ufffe\ufffe฿เแโใไๅๆ\u0e47\u0e48\u0e49"),
      (0xea, "\u0e4a\u0e4b\u0e4c\u0e4d\u0e4e๏๐๑๒๓๔๕๖๗๘๙๚๛\ufffe\ufffe\ufffe\ufffe")]

def latin7 : Charset :=
  singleByte
    ["iso8859_13", "iso_8859_13", "l7", "latin7"]
    [(0xa1, "”"), (0xa5, "„"), (0xa8, "Ø"), (0xaa, "Ŗ"), (0xaf, "Æ"), (0xb4, "“"), (0xb8, "ø"),
      (0xba, "ŗ"), (0xbf, "æĄĮĀĆ"), (0xc6, "ĘĒČ"), (0xca, "ŹĖĢĶĪĻŠŃŅ"), (0xd4, "Ō"),
      (0xd8, "ŲŁŚŪ"), (0xdd, "ŻŽ"), (0xe0, "ąįāć"), (0xe6, "ęēč"), (0xea, "źėģķīļšńņ"),
      (0xf4, "ō"), (0xf8, "ųłśū"), (0xfd, "żž’")]

def latin8 : Charset :=
  singleByte
    ["iso8859_14", "iso_8859_14", "iso_8859_14_1998", "iso_celtic", "iso_ir_199", "l8", "latin8"]
    [(0xa1, "Ḃḃ"), (0xa4, "ĊċḊ"), (0xa8, "Ẁ"), (0xaa, "ẂḋỲ"), (0xaf, "ŸḞḟĠġṀṁ"),
      (0xb7, "ṖẁṗẃṠỳẄẅṡ"), (0xd0, "Ŵ"), (0xd7, "Ṫ"), (0xde, "Ŷ"), (0xf0, "ŵ"), (0xf7, "ṫ"),
      (0xfe, "ŷ")]

def latin9 : Charset :=
  singleByte
    ["iso8859_15", "iso_8859_15", "l9", "latin9"]
    [(0xa4, "€"), (0xa6, "Š"), (0xa8, "š"), (0xb4, "Ž"), (0xb8, "ž"), (0xbc, "ŒœŸ")]

def latin10 : Charset :=
  singleByte
    ["iso8859_16", "iso_8859_16", "iso_8859_16_2001", "iso_ir_226", "l10", "latin10"]
    [(0xa1, "ĄąŁ€„Š"), (0xa8, "š"), (0xaa, "Ș"), (0xac, "Ź"), (0xae, "źŻ"), (0xb2, "ČłŽ”"),
      (0xb8, "žčș"), (0xbc, "ŒœŸż"), (0xc3, "Ă"), (0xc5, "Ć"), (0xd0, "ĐŃ"), (0xd5, "Ő"),
      (0xd7, "ŚŰ"), (0xdd, "ĘȚ"), (0xe3, "ă"), (0xe5, "ć"), (0xf0, "đń"), (0xf5, "ő"),
      (0xf7, "śű"), (0xfd, "ęț")]

def allIso8859 : List Charset :=
  [latin2, latin3, latin4, latinCyrillic, latinArabic, latinGreek, latinHebrew, latin5, latin6,
    latinThai, latin7, latin8, latin9, latin10]

end KconfigReference.Charset
