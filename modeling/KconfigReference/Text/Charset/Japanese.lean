import KconfigReference.Text.Charset.Basic
import KconfigReference.Text.Charset.JapaneseExtension
import KconfigReference.Text.Charset.JapaneseSupplement
import KconfigReference.Text.Charset.JapaneseTable

/-!
Character sets of Japanese. The extended coding marks what is no ASCII by the highest bit and other
planes by a byte before; the shifted one packs two rows of characters into the bytes after one first
byte, and leaves room for small syllables of one byte.
-/

namespace KconfigReference.Charset

/-- The characters that code page 932 has beyond JIS X 0208 or has otherwise, by their two bytes.
The private ones are missing. -/
def japaneseVariant : CodeTable :=
  [(0x8160, "～∥"), (0x817c, "－"), (0x8191, "￠￡"), (0x81ca, "￢"),
    (0x8740, "①②③④⑤⑥⑦⑧⑨⑩⑪⑫⑬⑭⑮⑯⑰⑱⑲⑳ⅠⅡⅢⅣⅤⅥⅦⅧⅨⅩ"), (0x875f, "㍉㌔㌢㍍㌘㌧㌃㌶㍑㍗㌍㌦㌣㌫㍊㌻㎜㎝㎞㎎㎏㏄㎡"), (0x877e, "㍻"),
    (0x8780, "〝〟№㏍℡㊤㊥㊦㊧㊨㈱㈲㈹㍾㍽㍼≒≡∫∮∑√⊥∠∟⊿∵∩∪"),
    (0xed40, "纊褜鍈銈蓜俉炻昱棈鋹曻彅丨仡仼伀伃伹佖侒侊侚侔俍偀倢俿倞偆偰偂傔僴僘兊兤冝冾凬刕劜劦勀勛匀匇匤卲"), (0xed70, "厓厲叝﨎咜咊咩哿喆坙坥垬埈埇﨏"),
    (0xed80, "塚增墲夋奓奛奝奣妤妺孖寀甯寘寬尞岦岺峵崧嵓﨑嵂嵭嶸嶹巐弡弴彧德忞恝悅悊惞惕愠惲愑愷愰憘戓抦揵摠撝"),
    (0xedb0, "擎敎昀昕昻昉昮昞昤晥晗晙晴晳暙暠暲暿曺朎朗杦枻桒柀栁桄棏﨓楨﨔榘槢樰橫橆橳橾櫢櫤毖氿汜沆汯泚洄涇"),
    (0xede0, "浯涖涬淏淸淲淼渹湜渧渼溿澈澵濵瀅瀇瀨炅炫焏焄煜煆煇凞燁燾犱"),
    (0xee40, "犾猤猪獷玽珉珖珣珒琇珵琦琪琩琮瑢璉璟甁畯皂皜皞皛皦益睆劯砡硎硤硺礰礼神祥禔福禛竑竧靖竫箞精絈絜綷"), (0xee70, "綠緖繒罇羡羽茁荢荿菇菶葈蒴蕓蕙"),
    (0xee80, "蕫﨟薰蘒﨡蠇裵訒訷詹誧誾諟諸諶譓譿賰賴贒赶﨣軏﨤逸遧郞都鄕鄧釚釗釞釭釮釤釥鈆鈐鈊鈺鉀鈼鉎鉙鉑鈹鉧"),
    (0xeeb0, "銧鉷鉸鋧鋗鋙鋐﨧鋕鋠鋓錥錡鋻﨨錞鋿錝錂鍰鍗鎤鏆鏞鏸鐱鑅鑈閒隆﨩隝隯霳霻靃靍靏靑靕顗顥飯飼餧館馞驎"), (0xeee0, "髙髜魵魲鮏鮱鮻鰀鵰鵫鶴鸙黑"),
    (0xeeef, "ⅰⅱⅲⅳⅴⅵⅶⅷⅸⅹ￢￤＇＂"), (0xfa40, "ⅰⅱⅲⅳⅴⅵⅶⅷⅸⅹⅠⅡⅢⅣⅤⅥⅦⅧⅨⅩ￢￤＇＂㈱№℡∵纊褜鍈銈蓜俉炻昱棈鋹曻彅丨仡仼伀伃伹佖侒"),
    (0xfa70, "侊侚侔俍偀倢俿倞偆偰偂傔僴僘兊"), (0xfa80, "兤冝冾凬刕劜劦勀勛匀匇匤卲厓厲叝﨎咜咊咩哿喆坙坥垬埈埇﨏塚增墲夋奓奛奝奣妤妺孖寀甯寘寬尞岦岺峵崧"),
    (0xfab0, "嵓﨑嵂嵭嶸嶹巐弡弴彧德忞恝悅悊惞惕愠惲愑愷愰憘戓抦揵摠撝擎敎昀昕昻昉昮昞昤晥晗晙晴晳暙暠暲暿曺朎"),
    (0xfae0, "朗杦枻桒柀栁桄棏﨓楨﨔榘槢樰橫橆橳橾櫢櫤毖氿汜沆汯泚洄涇浯"),
    (0xfb40, "涖涬淏淸淲淼渹湜渧渼溿澈澵濵瀅瀇瀨炅炫焏焄煜煆煇凞燁燾犱犾猤猪獷玽珉珖珣珒琇珵琦琪琩琮瑢璉璟甁畯"), (0xfb70, "皂皜皞皛皦益睆劯砡硎硤硺礰礼神"),
    (0xfb80, "祥禔福禛竑竧靖竫箞精絈絜綷綠緖繒罇羡羽茁荢荿菇菶葈蒴蕓蕙蕫﨟薰蘒﨡蠇裵訒訷詹誧誾諟諸諶譓譿賰賴贒"),
    (0xfbb0, "赶﨣軏﨤逸遧郞都鄕鄧釚釗釞釭釮釤釥鈆鈐鈊鈺鉀鈼鉎鉙鉑鈹鉧銧鉷鉸鋧鋗鋙鋐﨧鋕鋠鋓錥錡鋻﨨錞鋿錝錂鍰"),
    (0xfbe0, "鍗鎤鏆鏞鏸鐱鑅鑈閒隆﨩隝隯霳霻靃靍靏靑靕顗顥飯飼餧館馞驎髙"), (0xfc40, "髜魵魲鮏鮱鮻鰀鵰鵫鶴鸙黑")]

/-- The small syllable of one byte. -/
def smallSyllable? (byte : Nat) : Option Char :=
  if 0xA1 ≤ byte ∧ byte ≤ 0xDF then some (Char.ofNat (0xFF61 + (byte - 0xA1))) else none

/-- An edition of the standard of two planes. -/
structure Edition where
  /-- The codes of the first plane that the edition does not have yet. -/
  missing : List Nat
  /-- The characters that the edition has otherwise in the second plane. -/
  otherwise : CodeTable

def editionOf2004 : Edition := ⟨[], []⟩

def editionOf2000 : Edition where
  missing := [0x2e21, 0x2f7e, 0x4f54, 0x4f7e, 0x7427, 0x7e7a, 0x7e7b, 0x7e7c, 0x7e7d, 0x7e7e]
  otherwise := [(0x7d3b, "鬝")]

namespace Edition

/-- What a code of the first plane stands for. -/
def firstPlane? (edition : Edition) (code : Nat) : Option CodeText :=
  if edition.missing.contains code then none
  else
    match japaneseSequences.lookup code with
    | some sequence => some sequence
    | none => ((japanese.find? code) <|> (japanesePlane.find? code)).map fun c => [.char c]

/-- Reads two bytes that make a code of the first plane. -/
def readFirstPlane (edition : Edition) (code : Nat) : Reading Unit :=
  if edition.missing.contains code then .illegal 2 else .ofPoints 2 (edition.firstPlane? code)

def secondPlane? (edition : Edition) (code : Nat) : Option Char :=
  edition.otherwise.find? code <|> japaneseSecondPlane.find? code

end Edition

/-- Reads a small syllable after its mark, or a character of another plane after its mark, or a
character of two bytes. -/
def extendedNext (pair : Nat → Reading Unit) (other? : Nat → Option Char) (byte : UInt8)
    (rest : Bytes) : Reading Unit :=
  if byte = 0x8E then
    match rest with
    | [] => .unfinished
    | second :: _ => .ofOption 2 (smallSyllable? second.toNat)
  else if byte = 0x8F then
    match rest with
    | second :: third :: _ =>
        .ofOption 3 ((lowCode? second.toNat third.toNat).bind other?)
    | _ => .unfinished
  else
    match rest with
    | [] => .unfinished
    | second :: _ =>
        match lowCode? byte.toNat second.toNat with
        | some code => pair code
        | none => .illegal 1

def extendedJapanese : Charset :=
  multibyte ["euc_jp", "eucjp", "ujis", "u_jis"] "euc_jp" ()
    (orAscii (extendedNext (fun code => .ofOption 2 (japanese.find? code))
      japaneseSupplement.find?))

def extendedEdition (names : List String) (decoder : String) (edition : Edition) : Charset :=
  multibyte names decoder ()
    (orAscii (extendedNext edition.readFirstPlane fun code =>
      edition.secondPlane? code <|> japaneseSupplement.find? code))

/-- The number of a pair of bytes of the shifted coding: how many rows of 94 characters come before
its row, and its place in it. The first byte is counted from the first one that is used. -/
def shiftedPlace? (first second : Nat) : Option (Nat × Nat) :=
  if second < 0x40 ∨ second = 0x7F ∨ 0xFC < second then none
  else
    let place := if second < 0x7F then second - 0x40 else second - 0x41
    if place < 94 then some (2 * first, place) else some (2 * first + 1, place - 94)

/-- How many first bytes come before one. -/
def shiftedLead? (byte : Nat) : Option Nat :=
  if 0x81 ≤ byte ∧ byte ≤ 0x9F then some (byte - 0x81)
  else if 0xE0 ≤ byte ∧ byte ≤ 0xFC then some (byte - 0xC1)
  else none

/-- The code of the first plane of a pair of bytes of the shifted coding. -/
def shiftedCode? (first second : Nat) : Option Nat := do
  let (row, place) ← shiftedPlace? (← shiftedLead? first) second
  if row < 94 then some (codeOf (row + 0x21) (place + 0x21)) else none

/-- Reads a small syllable, or two bytes if the first one begins a pair. -/
def shiftedNext (isLead : Nat → Bool) (pair : Nat → Nat → Reading Unit) (byte : UInt8)
    (rest : Bytes) : Reading Unit :=
  match smallSyllable? byte.toNat with
  | some c => .code [.char c] 1 ()
  | none =>
      if !isLead byte.toNat then .illegal 1
      else
        match rest with
        | [] => .unfinished
        | second :: _ => pair byte.toNat second.toNat

def shiftedJapanese : Charset :=
  multibyte ["shift_jis", "csshiftjis", "shiftjis", "sjis", "s_jis", "x_mac_japanese"] "shift_jis"
    ()
    (orAscii (shiftedNext (fun byte => byte ≤ 0xEA && (shiftedLead? byte).isSome)
      fun first second => .ofOption 2 ((shiftedCode? first second).bind japanese.find?)))

/-- A private character of code page 932. -/
def privateJapanese? (first second : Nat) : Option Char := do
  let (row, place) ← shiftedPlace? (first - 0xF0) second
  if 0xF0 ≤ first ∧ first ≤ 0xF9 then some (Char.ofNat (0xE000 + row * 94 + place)) else none

def windows932 : Charset :=
  multibyte ["cp932", "932", "ms932", "mskanji", "ms_kanji"] "cp932" () (orAscii next)
where
  pair (first second : Nat) : Reading Unit :=
    .ofOption 2 (japaneseVariant.find? (codeOf first second) <|>
      (shiftedCode? first second).bind japanese.find? <|> privateJapanese? first second)
  next (byte : UInt8) (rest : Bytes) : Reading Unit :=
    let n := byte.toNat
    if n = 0x80 then .code [.char (Char.ofNat n)] 1 ()
    else if n = 0xA0 then .code [.char '\uF8F0'] 1 ()
    else if 0xFD ≤ n then .code [.char (Char.ofNat (0xF8F1 + (n - 0xFD)))] 1 ()
    else shiftedNext (fun byte => (shiftedLead? byte).isSome) pair byte rest

/-- The rows of the second plane, in the order in which the shifted coding has them after the rows
of the first plane. -/
def secondPlaneRows : List Nat := [1, 8, 3, 4, 5, 12, 13, 14, 15] ++ (List.range 17).map (· + 78)

def shiftedEdition (names : List String) (decoder : String) (edition : Edition) : Charset :=
  multibyte names decoder () next
where
  /-- A character of the second plane. -/
  other? (first second : Nat) : Option Char := do
    let (row, place) ← shiftedPlace? (← shiftedLead? first) second
    let row ← secondPlaneRows[row - 94]?
    edition.secondPlane? (codeOf (row + 0x20) (place + 0x21))
  pair (first second : Nat) : Reading Unit :=
    match shiftedCode? first second with
    | some 0x2140 => .code [.char '\\'] 2 ()
    | some 0x2232 => .code [.char '~'] 2 ()
    | some code => edition.readFirstPlane code
    | none => .ofOption 2 (other? first second)
  next (_ : Unit) (byte : UInt8) (rest : Bytes) : Reading Unit :=
    let n := byte.toNat
    if n = 0x5C then .code [.char '¥'] 1 ()
    else if n = 0x7E then .code [.char '‾'] 1 ()
    else if n < 0x80 then .code [.char (Char.ofNat n)] 1 ()
    else shiftedNext (fun byte => (shiftedLead? byte).isSome) pair byte rest

def allJapanese : List Charset :=
  [extendedJapanese, shiftedJapanese, windows932,
    extendedEdition ["euc_jis_2004", "jisx0213", "eucjis2004", "euc_jis2004"] "euc_jis_2004"
      editionOf2004,
    extendedEdition ["euc_jisx0213", "eucjisx0213"] "euc_jisx0213" editionOf2000,
    shiftedEdition ["shift_jis_2004", "shiftjis2004", "sjis_2004", "s_jis_2004"] "shift_jis_2004"
      editionOf2004,
    shiftedEdition ["shift_jisx0213", "shiftjisx0213", "sjisx0213", "s_jisx0213"] "shift_jisx0213"
      editionOf2000]

end KconfigReference.Charset
