import KconfigReference.Text.Charset.Basic

/-!
The sets of the Macintosh.
-/

namespace KconfigReference.Charset

def macArabic : Charset :=
  singleByte
    ["mac_arabic"]
    [(0x80, "Ä\xa0ÇÉÑÖÜáàâä\u06ba«çéèêëí…îïñó»ôö÷úùûü !\"#$٪&'()*+،-./\u0660\u0661\u0662"),
      (0xb3, "\u0663\u0664\u0665\u0666\u0667\u0668\u0669:\u061b<=>\u061f❊\u0621\u0622\u0623"),
      (0xc4, "\u0624\u0625\u0626\u0627\u0628\u0629\u062a\u062b\u062c\u062d\u062e\u062f\u0630"),
      (0xd1, "\u0631\u0632\u0633\u0634\u0635\u0636\u0637\u0638\u0639\u063a[\\]^_\u0640\u0641"),
      (0xe2, "\u0642\u0643\u0644\u0645\u0646\u0647\u0648\u0649\u064a\u064b\u064c\u064d\u064e"),
      (0xef, "\u064f\u0650\u0651\u0652\u067e\u0679\u0686\u06d5\u06a4\u06af\u0688\u0691\x7b|"),
      (0xfd, "\x7d\u0698\u06d2")]

def macCroatian : Charset :=
  singleByte
    ["mac_croatian"]
    [(0x80, "ÄÅÇÉÑÖÜáàâäãåçéèêëíìîïñóòôöõúùûü†°"), (0xa4, "§•¶ß®Š™´¨≠ŽØ∞"), (0xb2, "≤≥∆"),
      (0xb6, "∂∑∏š∫ªºΩžø¿¡¬√ƒ≈Ć«Č…\xa0ÀÃÕŒœĐ—“”‘’÷◊\uf8ff©⁄€‹›Æ»–·‚„‰ÂćÁčÈÍÎÏÌÓÔđÒÚÛÙıˆ˜¯πË˚¸"),
      (0xfd, "Êæˇ")]

def macCyrillic : Charset :=
  singleByte
    ["mac_cyrillic", "maccyrillic"]
    [(0x80, "АБВГДЕЖЗИЙКЛМНОПРСТУФХЦЧШЩЪЫЬЭЮЯ†°Ґ"), (0xa4, "§•¶І®"), (0xaa, "™Ђђ≠Ѓѓ∞"),
      (0xb2, "≤≥і"),
      (0xb6, "ґЈЄєЇїЉљЊњјЅ¬√ƒ≈∆«»…\xa0ЋћЌќѕ–—“”‘’÷„ЎўЏџ№Ёёяабвгдежзийклмнопрстуфхцчшщъыьэю€")]

def macFarsi : Charset :=
  singleByte
    ["mac_farsi"]
    [(0x80, "Ä\xa0ÇÉÑÖÜáàâä\u06ba«çéèêëí…îïñó»ôö÷úùûü !\"#$٪&'()*+،-./۰۱۲۳۴۵۶۷۸۹:\u061b<=>"),
      (0xbf, "\u061f❊\u0621\u0622\u0623\u0624\u0625\u0626\u0627\u0628\u0629\u062a\u062b\u062c"),
      (0xcd, "\u062d\u062e\u062f\u0630\u0631\u0632\u0633\u0634\u0635\u0636\u0637\u0638\u0639"),
      (0xda, "\u063a[\\]^_\u0640\u0641\u0642\u0643\u0644\u0645\u0646\u0647\u0648\u0649\u064a"),
      (0xeb, "\u064b\u064c\u064d\u064e\u064f\u0650\u0651\u0652\u067e\u0679\u0686\u06d5\u06a4"),
      (0xf8, "\u06af\u0688\u0691\x7b|\x7d\u0698\u06d2")]

def macGreek : Charset :=
  singleByte
    ["mac_greek", "macgreek"]
    [(0x80, "Ä¹²É³ÖÜ΅àâä΄¨çéèêë£™îï•½‰ôö¦€ùûü†ΓΔΘΛΞΠß®"), (0xaa, "ΣΪ§≠°·Α"),
      (0xb2, "≤≥¥ΒΕΖΗΙΚΜΦΫΨΩάΝ¬ΟΡ≈Τ«»…\xa0ΥΧΆΈœ–―“”‘’÷ΉΊΌΎέήίόΏύαβψδεφγηιξκλμνοπώρστθωςχυζϊϋΐ"),
      (0xfe, "ΰ\xad")]

def macIceland : Charset :=
  singleByte
    ["mac_iceland", "maciceland"]
    [(0x80, "ÄÅÇÉÑÖÜáàâäãåçéèêëíìîïñóòôöõúùûüÝ°"), (0xa4, "§•¶ß®"), (0xaa, "™´¨≠ÆØ∞"),
      (0xb2, "≤≥¥"), (0xb6, "∂∑∏π∫ªºΩæø¿¡¬√ƒ≈∆«»…\xa0ÀÃÕŒœ–—“”‘’÷◊ÿŸ⁄€Ðð"),
      (0xdf, "þý·‚„‰ÂÊÁËÈÍÎÏÌÓÔ\uf8ffÒÚÛÙıˆ˜¯˘˙˚¸˝˛ˇ")]

def macLatin2 : Charset :=
  singleByte
    ["mac_latin2", "maccentraleurope", "mac_centeuro", "maclatin2"]
    [(0x80, "ÄĀāÉĄÖÜáąČäčĆćéŹźĎíďĒēĖóėôöõúĚěü†°Ę"), (0xa4, "§•¶ß®"),
      (0xaa, "™ę¨≠ģĮįĪ≤≥īĶ∂∑łĻļĽľĹĺŅņŃ¬√ńŇ∆«»…\xa0ňŐÕőŌ–—“”‘’÷◊ōŔŕŘ‹›řŖŗŠ‚„šŚśÁŤťÍŽžŪÓÔūŮÚůŰű"),
      (0xf6, "ŲųÝýķŻŁżĢˇ")]

def macRoman : Charset :=
  singleByte
    ["mac_roman", "macintosh", "macroman"]
    [(0x80, "ÄÅÇÉÑÖÜáàâäãåçéèêëíìîïñóòôöõúùûü†°"), (0xa4, "§•¶ß®"), (0xaa, "™´¨≠ÆØ∞"),
      (0xb2, "≤≥¥"),
      (0xb6, "∂∑∏π∫ªºΩæø¿¡¬√ƒ≈∆«»…\xa0ÀÃÕŒœ–—“”‘’÷◊ÿŸ⁄€‹›ﬁﬂ‡·‚„‰ÂÊÁËÈÍÎÏÌÓÔ\uf8ffÒÚÛÙıˆ˜¯˘˙˚¸"),
      (0xfd, "˝˛ˇ")]

def macRomanian : Charset :=
  singleByte
    ["mac_romanian"]
    [(0x80, "ÄÅÇÉÑÖÜáàâäãåçéèêëíìîïñóòôöõúùûü†°"), (0xa4, "§•¶ß®"), (0xaa, "™´¨≠ĂȘ∞"),
      (0xb2, "≤≥¥"),
      (0xb6, "∂∑∏π∫ªºΩăș¿¡¬√ƒ≈∆«»…\xa0ÀÃÕŒœ–—“”‘’÷◊ÿŸ⁄€‹›Țț‡·‚„‰ÂÊÁËÈÍÎÏÌÓÔ\uf8ffÒÚÛÙıˆ˜¯˘˙˚¸"),
      (0xfd, "˝˛ˇ")]

def macTurkish : Charset :=
  singleByte
    ["mac_turkish", "macturkish"]
    [(0x80, "ÄÅÇÉÑÖÜáàâäãåçéèêëíìîïñóòôöõúùûü†°"), (0xa4, "§•¶ß®"), (0xaa, "™´¨≠ÆØ∞"),
      (0xb2, "≤≥¥"),
      (0xb6, "∂∑∏π∫ªºΩæø¿¡¬√ƒ≈∆«»…\xa0ÀÃÕŒœ–—“”‘’÷◊ÿŸĞğİıŞş‡·‚„‰ÂÊÁËÈÍÎÏÌÓÔ\uf8ffÒÚÛÙ\uf8a0ˆ˜"),
      (0xf8, "¯˘˙˚¸˝˛ˇ")]

def allMacintosh : List Charset :=
  [macArabic, macCroatian, macCyrillic, macFarsi, macGreek, macIceland, macLatin2, macRoman,
    macRomanian, macTurkish]

end KconfigReference.Charset
