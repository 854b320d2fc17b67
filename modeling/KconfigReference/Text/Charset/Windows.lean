import KconfigReference.Text.Charset.Basic

/-!
The code pages of Windows.
-/

namespace KconfigReference.Charset

def windows874 : Charset :=
  singleByte
    ["cp874"]
    [(0x80, "€\ufffe\ufffe\ufffe\ufffe…\ufffe\ufffe\ufffe\ufffe\ufffe\ufffe\ufffe\ufffe"),
      (0x8e, "\ufffe\ufffe\ufffe‘’“”•–—\ufffe\ufffe\ufffe\ufffe\ufffe\ufffe\ufffe\ufffe"),
      (0xa1, "กขฃคฅฆงจฉชซฌญฎฏฐฑฒณดตถทธนบปผฝพฟภมยรฤลฦวศษสหฬอฮฯะ\u0e31าำ\u0e34\u0e35\u0e36"),
      (0xd7, "\u0e37\u0e38\u0e39\u0e3a\ufffe\ufffe\ufffe\ufffe฿เแโใไๅๆ\u0e47\u0e48\u0e49"),
      (0xea, "\u0e4a\u0e4b\u0e4c\u0e4d\u0e4e๏๐๑๒๓๔๕๖๗๘๙๚๛\ufffe\ufffe\ufffe\ufffe")]

def windows1250 : Charset :=
  singleByte
    ["cp1250", "1250", "windows_1250"]
    [(0x80, "€\ufffe‚\ufffe„…†‡\ufffe‰Š‹ŚŤŽŹ\ufffe‘’“”•–—\ufffe™š›śťžź"), (0xa1, "ˇ˘Ł"),
      (0xa5, "Ą"), (0xaa, "Ş"), (0xaf, "Ż"), (0xb2, "˛ł"), (0xb9, "ąş"), (0xbc, "Ľ˝ľżŔ"),
      (0xc3, "Ă"), (0xc5, "ĹĆ"), (0xc8, "Č"), (0xca, "Ę"), (0xcc, "Ě"), (0xcf, "ĎĐŃŇ"),
      (0xd5, "Ő"), (0xd8, "ŘŮ"), (0xdb, "Ű"), (0xde, "Ţ"), (0xe0, "ŕ"), (0xe3, "ă"), (0xe5, "ĺć"),
      (0xe8, "č"), (0xea, "ę"), (0xec, "ě"), (0xef, "ďđńň"), (0xf5, "ő"), (0xf8, "řů"),
      (0xfb, "ű"), (0xfe, "ţ˙")]

def windows1251 : Charset :=
  singleByte
    ["cp1251", "1251", "windows_1251"]
    [(0x80, "ЂЃ‚ѓ„…†‡€‰Љ‹ЊЌЋЏђ‘’“”•–—\ufffe™љ›њќћџ"), (0xa1, "ЎўЈ"), (0xa5, "Ґ"), (0xa8, "Ё"),
      (0xaa, "Є"), (0xaf, "Ї"), (0xb2, "Ііґ"), (0xb8, "ё№є"),
      (0xbc, "јЅѕїАБВГДЕЖЗИЙКЛМНОПРСТУФХЦЧШЩЪЫЬЭЮЯабвгдежзийклмнопрстуфхцчшщъыьэюя")]

def windows1252 : Charset :=
  singleByte
    ["cp1252", "1252", "windows_1252"]
    [(0x80, "€\ufffe‚ƒ„…†‡ˆ‰Š‹Œ\ufffeŽ\ufffe\ufffe‘’“”•–—˜™š›œ\ufffežŸ")]

def windows1253 : Charset :=
  singleByte
    ["cp1253", "1253", "windows_1253"]
    [(0x80, "€\ufffe‚ƒ„…†‡\ufffe‰\ufffe‹\ufffe\ufffe\ufffe\ufffe\ufffe‘’“”•–—\ufffe™\ufffe›"),
      (0x9c, "\ufffe\ufffe\ufffe\ufffe"), (0xa1, "΅Ά"), (0xaa, "\ufffe"), (0xaf, "―"), (0xb4, "΄"),
      (0xb8, "ΈΉΊ"), (0xbc, "Ό"),
      (0xbe, "ΎΏΐΑΒΓΔΕΖΗΘΙΚΛΜΝΞΟΠΡ\ufffeΣΤΥΦΧΨΩΪΫάέήίΰαβγδεζηθικλμνξοπρςστυφχψωϊϋόύώ\ufffe")]

def windows1254 : Charset :=
  singleByte
    ["cp1254", "1254", "windows_1254"]
    [(0x80, "€\ufffe‚ƒ„…†‡ˆ‰Š‹Œ\ufffe\ufffe\ufffe\ufffe‘’“”•–—˜™š›œ\ufffe\ufffeŸ"), (0xd0, "Ğ"),
      (0xdd, "İŞ"), (0xf0, "ğ"), (0xfd, "ış")]

def windows1255 : Charset :=
  singleByte
    ["cp1255", "1255", "windows_1255"]
    [(0x80, "€\ufffe‚ƒ„…†‡ˆ‰\ufffe‹\ufffe\ufffe\ufffe\ufffe\ufffe‘’“”•–—˜™\ufffe›\ufffe"),
      (0x9d, "\ufffe\ufffe\ufffe"), (0xa4, "₪"), (0xaa, "×"), (0xba, "÷"),
      (0xc0, "\u05b0\u05b1\u05b2\u05b3\u05b4\u05b5\u05b6\u05b7\u05b8\u05b9\ufffe\u05bb\u05bc"),
      (0xcd, "\u05bd\u05be\u05bf\u05c0\u05c1\u05c2\u05c3\u05f0\u05f1\u05f2\u05f3\u05f4\ufffe"),
      (0xda, "\ufffe\ufffe\ufffe\ufffe\ufffe\ufffe\u05d0\u05d1\u05d2\u05d3\u05d4\u05d5\u05d6"),
      (0xe7, "\u05d7\u05d8\u05d9\u05da\u05db\u05dc\u05dd\u05de\u05df\u05e0\u05e1\u05e2\u05e3"),
      (0xf4, "\u05e4\u05e5\u05e6\u05e7\u05e8\u05e9\u05ea\ufffe\ufffe\u200e\u200f\ufffe")]

def windows1256 : Charset :=
  singleByte
    ["cp1256", "1256", "windows_1256"]
    [(0x80, "€\u067e‚ƒ„…†‡ˆ‰\u0679‹Œ\u0686\u0698\u0688\u06af‘’“”•–—\u06a9™\u0691›œ\u200c"),
      (0x9e, "\u200d\u06ba"), (0xa1, "،"), (0xaa, "\u06be"), (0xba, "\u061b"),
      (0xbf, "\u061f\u06c1\u0621\u0622\u0623\u0624\u0625\u0626\u0627\u0628\u0629\u062a\u062b"),
      (0xcc, "\u062c\u062d\u062e\u062f\u0630\u0631\u0632\u0633\u0634\u0635\u0636"),
      (0xd8, "\u0637\u0638\u0639\u063a\u0640\u0641\u0642\u0643"), (0xe1, "\u0644"),
      (0xe3, "\u0645\u0646\u0647\u0648"), (0xec, "\u0649\u064a"),
      (0xf0, "\u064b\u064c\u064d\u064e"), (0xf5, "\u064f\u0650"), (0xf8, "\u0651"),
      (0xfa, "\u0652"), (0xfd, "\u200e\u200f\u06d2")]

def windows1257 : Charset :=
  singleByte
    ["cp1257", "1257", "windows_1257"]
    [(0x80, "€\ufffe‚\ufffe„…†‡\ufffe‰\ufffe‹\ufffe¨ˇ¸\ufffe‘’“”•–—\ufffe™\ufffe›\ufffe¯˛"),
      (0x9f, "\ufffe"), (0xa1, "\ufffe"), (0xa5, "\ufffe"), (0xa8, "Ø"), (0xaa, "Ŗ"), (0xaf, "Æ"),
      (0xb8, "ø"), (0xba, "ŗ"), (0xbf, "æĄĮĀĆ"), (0xc6, "ĘĒČ"), (0xca, "ŹĖĢĶĪĻŠŃŅ"), (0xd4, "Ō"),
      (0xd8, "ŲŁŚŪ"), (0xdd, "ŻŽ"), (0xe0, "ąįāć"), (0xe6, "ęēč"), (0xea, "źėģķīļšńņ"),
      (0xf4, "ō"), (0xf8, "ųłśū"), (0xfd, "żž˙")]

def windows1258 : Charset :=
  singleByte
    ["cp1258", "1258", "windows_1258"]
    [(0x80, "€\ufffe‚ƒ„…†‡ˆ‰\ufffe‹Œ\ufffe\ufffe\ufffe\ufffe‘’“”•–—˜™\ufffe›œ\ufffe\ufffeŸ"),
      (0xc3, "Ă"), (0xcc, "\u0300"), (0xd0, "Đ"), (0xd2, "\u0309"), (0xd5, "Ơ"), (0xdd, "Ư\u0303"),
      (0xe3, "ă"), (0xec, "\u0301"), (0xf0, "đ"), (0xf2, "\u0323"), (0xf5, "ơ"), (0xfd, "ư₫")]

def allWindows : List Charset :=
  [windows874, windows1250, windows1251, windows1252, windows1253, windows1254, windows1255,
    windows1256, windows1257, windows1258]

end KconfigReference.Charset
