import KconfigReference.Text.Charset.Basic

/-!
Code pages of mainframes, in which the letters of ASCII have other codes as well.
-/

namespace KconfigReference.Charset

def codePage037 : Charset :=
  singleByte
    ["cp037", "037", "csibm037", "ebcdic_cp_ca", "ebcdic_cp_nl", "ebcdic_cp_us", "ebcdic_cp_wt",
     "ibm037", "ibm039"]
    [(0x4, "\x9c\x09\x86\x7f\x97\x8d\x8e"), (0x14, "\x9d\x85\x08\x87"), (0x1a, "\x92\x8f"),
      (0x20, "\x80\x81\x82\x83\x84\x0a\x17\x1b\x88\x89\x8a\x8b\x8c\x05\x06\x07\x90\x91\x16"),
      (0x33, "\x93\x94\x95\x96\x04\x98\x99\x9a\x9b\x14\x15\x9e\x1a \xa0âäàáãåçñ¢.<(+|&éêëèíîï"),
      (0x58, "ìß!$*);¬-/ÂÄÀÁÃÅÇÑ¦,%_>?øÉÊËÈÍÎÏÌ\x60:#@'=\"Øabcdefghi«»ðýþ±°jklmnopqrªºæ¸Æ¤µ~s"),
      (0xa3, "tuvwxyz¡¿ÐÝÞ®^£¥·©§"),
      (0xb7, "¼½¾[]¯¨´×\x7bABCDEFGHI\xadôöòóõ\x7dJKLMNOPQR¹ûüùúÿ\\÷STUVWXYZ²ÔÖÒÓÕ0123456789³Û"),
      (0xfc, "ÜÙÚ\x9f")]

def codePage273 : Charset :=
  singleByte
    ["cp273", "273", "ibm273", "csibm273"]
    [(0x4, "\x9c\x09\x86\x7f\x97\x8d\x8e"), (0x14, "\x9d\x85\x08\x87"), (0x1a, "\x92\x8f"),
      (0x20, "\x80\x81\x82\x83\x84\x0a\x17\x1b\x88\x89\x8a\x8b\x8c\x05\x06\x07\x90\x91\x16"),
      (0x33, "\x93\x94\x95\x96\x04\x98\x99\x9a\x9b\x14\x15\x9e\x1a \xa0â\x7bàáãåçñÄ.<(+!&éêëè"),
      (0x55, "íîïì~Ü$*);^-/Â[ÀÁÃÅÇÑö,%_>?øÉÊËÈÍÎÏÌ\x60:#§'=\"Øabcdefghi«»ðýþ±°jklmnopqrªºæ¸Æ¤"),
      (0xa0, "µßstuvwxyz¡¿ÐÝÞ®¢£¥·©@"),
      (0xb7, "¼½¾¬|‾¨´×äABCDEFGHI\xadô¦òóõüJKLMNOPQR¹û\x7dùúÿÖ÷STUVWXYZ²Ô\\ÒÓÕ0123456789³Û]ÙÚ"),
      (0xff, "\x9f")]

def codePage424 : Charset :=
  singleByte
    ["cp424", "424", "csibm424", "ebcdic_cp_he", "ibm424"]
    [(0x4, "\x9c\x09\x86\x7f\x97\x8d\x8e"), (0x14, "\x9d\x85\x08\x87"), (0x1a, "\x92\x8f"),
      (0x20, "\x80\x81\x82\x83\x84\x0a\x17\x1b\x88\x89\x8a\x8b\x8c\x05\x06\x07\x90\x91\x16"),
      (0x33, "\x93\x94\x95\x96\x04\x98\x99\x9a\x9b\x14\x15\x9e\x1a \u05d0\u05d1\u05d2\u05d3"),
      (0x45, "\u05d4\u05d5\u05d6\u05d7\u05d8¢.<(+|&\u05d9\u05da\u05db\u05dc\u05dd\u05de\u05df"),
      (0x58, "\u05e0\u05e1!$*);¬-/\u05e2\u05e3\u05e4\u05e5\u05e6\u05e7\u05e8\u05e9¦,%_>?"),
      (0x70, "\ufffe\u05ea\ufffe\ufffe\xa0\ufffe\ufffe\ufffe‗\x60:#@'=\"\ufffeabcdefghi«»"),
      (0x8c, "\ufffe\ufffe\ufffe±°jklmnopqr\ufffe\ufffe\ufffe¸\ufffe¤µ~stuvwxyz\ufffe\ufffe"),
      (0xac, "\ufffe\ufffe\ufffe®^£¥·©§"),
      (0xb7, "¼½¾[]¯¨´×\x7bABCDEFGHI\xad\ufffe\ufffe\ufffe\ufffe\ufffe\x7dJKLMNOPQR¹\ufffe"),
      (0xdc, "\ufffe\ufffe\ufffe\ufffe\\÷STUVWXYZ²\ufffe\ufffe\ufffe\ufffe\ufffe0123456789³"),
      (0xfb, "\ufffe\ufffe\ufffe\ufffe\x9f")]

def codePage500 : Charset :=
  singleByte
    ["cp500", "500", "csibm500", "ebcdic_cp_be", "ebcdic_cp_ch", "ibm500"]
    [(0x4, "\x9c\x09\x86\x7f\x97\x8d\x8e"), (0x14, "\x9d\x85\x08\x87"), (0x1a, "\x92\x8f"),
      (0x20, "\x80\x81\x82\x83\x84\x0a\x17\x1b\x88\x89\x8a\x8b\x8c\x05\x06\x07\x90\x91\x16"),
      (0x33, "\x93\x94\x95\x96\x04\x98\x99\x9a\x9b\x14\x15\x9e\x1a \xa0âäàáãåçñ[.<(+!&éêëèíîï"),
      (0x58, "ìß]$*);^-/ÂÄÀÁÃÅÇÑ¦,%_>?øÉÊËÈÍÎÏÌ\x60:#@'=\"Øabcdefghi«»ðýþ±°jklmnopqrªºæ¸Æ¤µ~s"),
      (0xa3, "tuvwxyz¡¿ÐÝÞ®¢£¥·©§"),
      (0xb7, "¼½¾¬|¯¨´×\x7bABCDEFGHI\xadôöòóõ\x7dJKLMNOPQR¹ûüùúÿ\\÷STUVWXYZ²ÔÖÒÓÕ0123456789³Û"),
      (0xfc, "ÜÙÚ\x9f")]

def codePage875 : Charset :=
  singleByte
    ["cp875"]
    [(0x4, "\x9c\x09\x86\x7f\x97\x8d\x8e"), (0x14, "\x9d\x85\x08\x87"), (0x1a, "\x92\x8f"),
      (0x20, "\x80\x81\x82\x83\x84\x0a\x17\x1b\x88\x89\x8a\x8b\x8c\x05\x06\x07\x90\x91\x16"),
      (0x33, "\x93\x94\x95\x96\x04\x98\x99\x9a\x9b\x14\x15\x9e\x1a ΑΒΓΔΕΖΗΘΙ[.<(+!&ΚΛΜΝΞΟΠΡΣ]"),
      (0x5b, "$*);^-/ΤΥΦΧΨΩΪΫ|,%_>?¨ΆΈΉ\xa0ΊΌΎΏ\x60:#@'=\"΅abcdefghiαβγδεζ°jklmnopqrηθικλμ´~s"),
      (0xa3, "tuvwxyzνξοπρσ£άέήϊίόύϋώςτυφχψ\x7bABCDEFGHI\xadωΐΰ‘―\x7dJKLMNOPQR±½\x1a·’¦\\\x1a"),
      (0xe2, "STUVWXYZ²§\x1a\x1a«¬0123456789³©\x1a\x1a»\x9f")]

def codePage1026 : Charset :=
  singleByte
    ["cp1026", "1026", "csibm1026", "ibm1026"]
    [(0x4, "\x9c\x09\x86\x7f\x97\x8d\x8e"), (0x14, "\x9d\x85\x08\x87"), (0x1a, "\x92\x8f"),
      (0x20, "\x80\x81\x82\x83\x84\x0a\x17\x1b\x88\x89\x8a\x8b\x8c\x05\x06\x07\x90\x91\x16"),
      (0x33, "\x93\x94\x95\x96\x04\x98\x99\x9a\x9b\x14\x15\x9e\x1a \xa0âäàáãå\x7bñÇ.<(+!&éêëè"),
      (0x55, "íîïìßĞİ*);^-/ÂÄÀÁÃÅ[Ñş,%_>?øÉÊËÈÍÎÏÌı:ÖŞ'=ÜØabcdefghi«»\x7d\x60¦±°jklmnopqrªºæ¸"),
      (0x9e, "Æ¤µöstuvwxyz¡¿]$@®¢£¥·©§"),
      (0xb7, "¼½¾¬|¯¨´×çABCDEFGHI\xadô~òóõğJKLMNOPQR¹û\\ùúÿü÷STUVWXYZ²Ô#ÒÓÕ0123456789³Û\"ÙÚ"),
      (0xff, "\x9f")]

def codePage1140 : Charset :=
  singleByte
    ["cp1140", "1140", "ibm1140"]
    [(0x4, "\x9c\x09\x86\x7f\x97\x8d\x8e"), (0x14, "\x9d\x85\x08\x87"), (0x1a, "\x92\x8f"),
      (0x20, "\x80\x81\x82\x83\x84\x0a\x17\x1b\x88\x89\x8a\x8b\x8c\x05\x06\x07\x90\x91\x16"),
      (0x33, "\x93\x94\x95\x96\x04\x98\x99\x9a\x9b\x14\x15\x9e\x1a \xa0âäàáãåçñ¢.<(+|&éêëèíîï"),
      (0x58, "ìß!$*);¬-/ÂÄÀÁÃÅÇÑ¦,%_>?øÉÊËÈÍÎÏÌ\x60:#@'=\"Øabcdefghi«»ðýþ±°jklmnopqrªºæ¸Æ€µ~s"),
      (0xa3, "tuvwxyz¡¿ÐÝÞ®^£¥·©§"),
      (0xb7, "¼½¾[]¯¨´×\x7bABCDEFGHI\xadôöòóõ\x7dJKLMNOPQR¹ûüùúÿ\\÷STUVWXYZ²ÔÖÒÓÕ0123456789³Û"),
      (0xfc, "ÜÙÚ\x9f")]

def allMainframe : List Charset :=
  [codePage037, codePage273, codePage424, codePage500, codePage875, codePage1026, codePage1140]

end KconfigReference.Charset
