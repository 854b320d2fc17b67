import KconfigReference.Text.Charset.Basic

/-!
Sets of single countries and makers.
-/

namespace KconfigReference.Charset

def roman8 : Charset :=
  singleByte
    ["hp_roman8", "roman8", "r8", "cp1051", "ibm1051"]
    [(0xa1, "ÀÂÈÊËÎÏ´ˋˆ¨˜ÙÛ₤¯Ýý°ÇçÑñ¡¿¤£¥§ƒ¢âêôûáéóúàèòùäëöüÅîØÆåíøæÄìÖÜÉïßÔÁÃãÐðÍÌÓÒÕõŠšÚŸÿ"),
      (0xf0, "Þþ·µ¶¾—¼½ªº«■»±\ufffe")]

def koi8Russian : Charset :=
  singleByte
    ["koi8_r", "cskoi8r"]
    [(0x80, "─│┌┐└┘├┤┬┴┼▀▄█▌▐░▒▓⌠■∙√≈≤≥\xa0⌡°²·÷═║╒ё╓╔╕╖╗╘╙╚╛╜╝╞╟╠╡Ё╢╣╤╥╦╧╨╩╪╫╬©юабцдефгхийк"),
      (0xcc, "лмнопярстужвьызшэщчъЮАБЦДЕФГХИЙКЛМНОПЯРСТУЖВЬЫЗШЭЩЧЪ")]

def koi8Tajik : Charset :=
  singleByte
    ["koi8_t"]
    [(0x80, "қғ‚Ғ„…†‡\ufffe‰ҳ‹ҲҷҶ\ufffeҚ‘’“”•–—\ufffe™\ufffe›\ufffe\ufffe\ufffe\ufffe\ufffeӯ"),
      (0xa2, "Ӯё"), (0xa5, "ӣ"), (0xa8, "\ufffe\ufffe\ufffe"), (0xaf, "\ufffe"),
      (0xb3, "Ё\ufffeӢ"), (0xb8, "\ufffe№\ufffe"),
      (0xbc, "\ufffe\ufffe\ufffe©юабцдефгхийклмнопярстужвьызшэщчъЮАБЦДЕФГХИЙКЛМНОПЯРСТУЖВЬЫЗШ"),
      (0xfc, "ЭЩЧЪ")]

def koi8Ukrainian : Charset :=
  singleByte
    ["koi8_u"]
    [(0x80, "─│┌┐└┘├┤┬┴┼▀▄█▌▐░▒▓⌠■∙√≈≤≥\xa0⌡°²·÷═║╒ёє╔ії╗╘╙╚╛ґ╝╞╟╠╡ЁЄ╣ІЇ╦╧╨╩╪Ґ╬©юабцдефгхийк"),
      (0xcc, "лмнопярстужвьызшэщчъЮАБЦДЕФГХИЙКЛМНОПЯРСТУЖВЬЫЗШЭЩЧЪ")]

def kazakh : Charset :=
  singleByte
    ["kz1048", "kz_1048", "rk1048", "strk1048_2002"]
    [(0x80, "ЂЃ‚ѓ„…†‡€‰Љ‹ЊҚҺЏђ‘’“”•–—\ufffe™љ›њқһџ"), (0xa1, "ҰұӘ"), (0xa5, "Ө"), (0xa8, "Ё"),
      (0xaa, "Ғ"), (0xaf, "Ү"), (0xb2, "Ііө"), (0xb8, "ё№ғ"),
      (0xbc, "әҢңүАБВГДЕЖЗИЙКЛМНОПРСТУФХЦЧШЩЪЫЬЭЮЯабвгдежзийклмнопрстуфхцчшщъыьэюя")]

def palm : Charset :=
  singleByte
    ["palmos"]
    [(0x80, "€"), (0x82, "‚ƒ„…†‡ˆ‰Š‹Œ♦♣♥♠‘’“”•–—˜™š"), (0x9c, "œ"), (0x9f, "Ÿ")]

def asianCyrillic : Charset :=
  singleByte
    ["ptcp154", "csptcp154", "pt154", "cp154", "cyrillic_asian"]
    [(0x80, "ҖҒӮғ„…ҶҮҲүҠӢҢҚҺҸҗ‘’“”•–—ҳҷҡӣңқһҹ"), (0xa1, "ЎўЈӨҘҰ"), (0xa8, "Ё"), (0xaa, "Ә"),
      (0xad, "ӯ"), (0xaf, "Ҝ"), (0xb1, "ұІіҙө"), (0xb8, "ё№ә"),
      (0xbc, "јҪҫҝАБВГДЕЖЗИЙКЛМНОПРСТУФХЦЧШЩЪЫЬЭЮЯабвгдежзийклмнопрстуфхцчшщъыьэюя")]

def thai : Charset :=
  singleByte
    ["tis_620", "tis620", "tis_620_0", "tis_620_2529_0", "tis_620_2529_1", "iso_ir_166"]
    [(0xa0, "\ufffeกขฃคฅฆงจฉชซฌญฎฏฐฑฒณดตถทธนบปผฝพฟภมยรฤลฦวศษสหฬอฮฯะ\u0e31าำ\u0e34\u0e35"),
      (0xd6, "\u0e36\u0e37\u0e38\u0e39\u0e3a\ufffe\ufffe\ufffe\ufffe฿เแโใไๅๆ\u0e47\u0e48"),
      (0xe9, "\u0e49\u0e4a\u0e4b\u0e4c\u0e4d\u0e4e๏๐๑๒๓๔๕๖๗๘๙๚๛\ufffe\ufffe\ufffe\ufffe")]

def allNational : List Charset :=
  [roman8, koi8Russian, koi8Tajik, koi8Ukrainian, kazakh, palm, asianCyrillic, thai]

end KconfigReference.Charset
