import KconfigReference.Text.Charset.ChineseExtension
import KconfigReference.Text.Charset.ChineseTable
import KconfigReference.Text.Charset.HongKongTable
import KconfigReference.Text.Charset.TaiwanTable
import KconfigReference.Text.Normal.Form

/-!
Character sets of Chinese, simplified and traditional. Each extends an older one: what it has
otherwise comes first.
-/

namespace KconfigReference.Charset

def simplified? (first second : Nat) : Option Char := (lowCode? first second).bind chinese.find?

def extended? (first second : Nat) : Option Char :=
  chineseExtension.find? (codeOf first second) <|> simplified? first second

/-- The character that the runs of a table have for a number. -/
def inRuns? (runs : List String) (n : Nat) : Option Char :=
  match (Text.tableEntries runs).findSome? (Text.imageIn? n) with
  | some [code] => some (Char.ofNat code)
  | _ => none

def gb2312 : Charset :=
  multibyte
    ["gb2312", "chinese", "csiso58gb231280", "euc_cn", "euccn", "eucgb2312_cn", "gb2312_1980",
      "gb2312_80", "iso_ir_58", "x_mac_simp_chinese"]
    "gb2312" () (orAscii (pairOf simplified?))

def gbk : Charset :=
  multibyte ["gbk", "936", "cp936", "ms936"] "gbk" () (orAscii (pairOf extended?))

/-- The character of four bytes, the second and the last of which are digits. -/
def fourBytes? (a b c d : Nat) : Option Char :=
  if 0x81 ≤ a ∧ a ≤ 0xFE ∧ 0x81 ≤ c ∧ c ≤ 0xFE ∧ 0x30 ≤ d ∧ d ≤ 0x39 then
    let inner := ((b - 0x30) * 126 + (c - 0x81)) * 10 + (d - 0x30)
    if a < 0x85 then inRuns? chineseFourByteRuns ((a - 0x81) * 12600 + inner)
    else if 0x90 ≤ a ∧ (a - 0x90) * 12600 + inner < 0x100000 then
      some (Char.ofNat (0x10000 + (a - 0x90) * 12600 + inner))
    else none
  else none

def gb18030 : Charset :=
  multibyte ["gb18030", "gb18030_2000"] "gb18030" () (orAscii next)
where
  next (byte : UInt8) (rest : Bytes) : Reading Unit :=
    match rest with
    | [] => .unfinished
    | second :: more =>
        if 0x30 ≤ second.toNat ∧ second.toNat ≤ 0x39 then
          match more with
          | third :: fourth :: _ =>
              .ofOption 4 (fourBytes? byte.toNat second.toNat third.toNat fourth.toNat)
          | _ => .unfinished
        else
          .ofOption 2 (extended? byte.toNat second.toNat <|>
            inRuns? chineseLastRuns (codeOf byte.toNat second.toNat))

def big5 : Charset :=
  multibyte ["big5", "big5_tw", "csbig5", "x_mac_trad_chinese"] "big5" ()
    (orAscii (pairOf fun first second => taiwan.find? (codeOf first second)))

def windows950 : Charset :=
  multibyte ["cp950", "950", "ms950"] "cp950" ()
    (orAscii (pairOf fun first second =>
      taiwanVariant.find? (codeOf first second) <|> taiwan.find? (codeOf first second)))

/-- The codes that stand for two characters in Hong Kong. -/
def hongKongSequences : List (Nat × String) :=
  [(0x8862, "\u00ca\u0304"), (0x8864, "\u00ca\u030c"), (0x88a3, "\u00ea\u0304"),
    (0x88a5, "\u00ea\u030c")]

/-- The codes that Hong Kong does not have. -/
def notInHongKong : List Nat := [0xc6cf, 0xc6d3, 0xc6d5, 0xc6d7, 0xc6de, 0xc6df]

def big5HongKong : Charset :=
  multibyte ["big5hkscs", "big5_hkscs", "hkscs"] "big5hkscs" () (orAscii next)
where
  next (byte : UInt8) (rest : Bytes) : Reading Unit :=
    match rest with
    | [] => .unfinished
    | second :: _ =>
        let code := codeOf byte.toNat second.toNat
        match hongKongSequences.lookup code with
        | some sequence => .code sequence 2 ()
        | none =>
            .ofOption 2 (hongKong.find? code <|>
              if notInHongKong.contains code then none else taiwan.find? code)

def allChinese : List Charset := [gb2312, gbk, gb18030, big5, windows950, big5HongKong]

end KconfigReference.Charset
