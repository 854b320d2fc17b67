import KconfigReference.Text.Charset.KoreanTable
import KconfigReference.Text.Normal.Form

/-!
Character sets of Korean. The standard has the common syllables among its characters; the sets that
have all syllables put the others into free codes, or compose the code of a syllable of its letters.
-/

namespace KconfigReference.Charset

def standardKorean? (first second : Nat) : Option Char := (lowCode? first second).bind korean.find?

/-- The code of the mark that begins the spelling of a syllable. -/
def spellingMark : Nat := 0xA4D4

/-- The letters of the alphabet as the standard has them, from the code A1, that begin syllables. -/
def leadingLetters : List Nat :=
  [0xA1, 0xA2, 0xA4, 0xA7, 0xA8, 0xA9, 0xB1, 0xB2, 0xB3, 0xB5, 0xB6, 0xB7, 0xB8, 0xB9, 0xBA, 0xBB,
    0xBC, 0xBD, 0xBE]

/-- The letters that end syllables, after the mark for none. -/
def trailingLetters : List Nat :=
  [0xD4, 0xA1, 0xA2, 0xA3, 0xA4, 0xA5, 0xA6, 0xA7, 0xA9, 0xAA, 0xAB, 0xAC, 0xAD, 0xAE, 0xAF, 0xB0,
    0xB1, 0xB2, 0xB4, 0xB5, 0xB6, 0xB7, 0xB8, 0xBA, 0xBB, 0xBC, 0xBD, 0xBE]

/-- The syllable of three letters by their numbers. -/
def syllable (leading vowel trailing : Nat) : Char :=
  Char.ofNat (0xAC00 + leading * Text.syllablesOfLeading + vowel * Text.syllablesOfVowel + trailing)

/-- A syllable that is spelled with three letters, by the second bytes of their codes. -/
def spelled? (leading vowel trailing : UInt8) : Option Char := do
  let first ← leadingLetters.idxOf? leading.toNat
  let last ← trailingLetters.idxOf? trailing.toNat
  if 0xBF ≤ vowel.toNat ∧ vowel.toNat ≤ 0xD3 then some (syllable first (vowel.toNat - 0xBF) last)
  else none

def extendedKorean : Charset :=
  multibyte
    ["euc_kr", "euckr", "korean", "ksc5601", "ks_c_5601", "ks_c_5601_1987", "ksx1001",
      "ks_x_1001", "x_mac_korean"]
    "euc_kr" () (orAscii next)
where
  next (byte : UInt8) (rest : Bytes) : Reading Unit :=
    match rest with
    | [] => .unfinished
    | second :: more =>
        if codeOf byte.toNat second.toNat = spellingMark then
          match more with
          | a :: leading :: b :: vowel :: c :: trailing :: _ =>
              if a = 0xA4 ∧ b = 0xA4 ∧ c = 0xA4 then .ofOption 8 (spelled? leading vowel trailing)
              else .illegal 1
          | _ => .unfinished
        else .ofOption 2 (standardKorean? byte.toNat second.toNat)

/-- The syllables that the standard does not have, in order. -/
def rareSyllables : List Char :=
  let common := (korean.flatMap fun (_, characters) => characters.toList).filter fun c =>
    0xAC00 ≤ c.toNat && c.toNat < 0xAC00 + Text.syllableCount
  let mark (seen : Array Bool) (c : Char) := seen.setIfInBounds (c.toNat - 0xAC00) true
  let isCommon := common.foldl mark (Array.replicate Text.syllableCount false)
  (List.range Text.syllableCount).filterMap fun index =>
    if isCommon.getD index false then none else some (Char.ofNat (0xAC00 + index))

/-- The number of a second byte among those that the free codes have: capital letters, small
letters, and bytes with the highest bit. -/
def freePlace? (second : Nat) : Option Nat :=
  if 0x41 ≤ second ∧ second ≤ 0x5A then some (second - 0x41)
  else if 0x61 ≤ second ∧ second ≤ 0x7A then some (second - 0x61 + 26)
  else if 0x81 ≤ second ∧ second ≤ 0xFE then some (second - 0x81 + 52)
  else none

/-- The number of a free code among all of them. From the first byte A1 on, the second byte A1 and
those after it belong to the standard. -/
def freeIndex? (first second : Nat) : Option Nat := do
  let place ← freePlace? second
  if 0x81 ≤ first ∧ first ≤ 0xA0 then some ((first - 0x81) * 178 + place)
  else if 0xA1 ≤ first ∧ first ≤ 0xC6 ∧ place < 84 then
    some (32 * 178 + (first - 0xA1) * 84 + place)
  else none

def windows949 : Charset where
  names := ["cp949", "949", "ms949", "uhc"]
  decode bytes :=
    let rare := rareSyllables.toArray
    let pair (first second : Nat) : Option Char :=
      standardKorean? first second <|> (freeIndex? first second).bind (rare[·]?)
    decodeFrom "cp949" (orAscii (pairOf pair)) bytes.length 0 () [] bytes

/-- The number of the vowel of a composed code. -/
def vowelOf? (field : Nat) : Option Nat :=
  if field % 8 < 2 ∨ field < 3 ∨ 29 < field then none
  else some (field - 3 - 2 * (field / 8))

/-- The number of the last letter of a composed code. -/
def trailingOf? (field : Nat) : Option Nat :=
  if 1 ≤ field ∧ field ≤ 17 then some (field - 1)
  else if 19 ≤ field ∧ field ≤ 29 then some (field - 2)
  else none

/-- The letters by themselves, from U+3131 on, by their numbers among those that begin syllables,
and among those that end them. -/
def leadingAlone : List Nat :=
  [0, 1, 3, 6, 7, 8, 16, 17, 18, 20, 21, 22, 23, 24, 25, 26, 27, 28, 29]

def trailingAlone : List Nat :=
  [0, 1, 2, 3, 4, 5, 6, 8, 9, 10, 11, 12, 13, 14, 15, 16, 17, 19, 20, 21, 22, 23, 25, 26, 27, 28,
    29]

/-- The character of a code that is composed of three letters, some of which may be missing. -/
def composedSyllable? (code : Nat) : Option Char :=
  let leading := code / 1024 % 32
  let vowel := code / 32 % 32
  let trailing := code % 32
  let letter (index : Nat) : Char := Char.ofNat (0x3131 + index)
  if 2 ≤ leading ∧ leading ≤ 20 then
    match vowelOf? vowel, trailingOf? trailing with
    | some v, some t => some (syllable (leading - 2) v t)
    | none, some 0 => if vowel = 2 then (leadingAlone[leading - 2]?).map letter else none
    | _, _ => none
  else if leading = 1 then
    match vowelOf? vowel, trailingOf? trailing with
    | some v, some 0 => some (letter (30 + v))
    | none, some 0 => if vowel = 2 then some '\u3000' else none
    | none, some (t + 1) => if vowel = 2 then (trailingAlone[t]?).map letter else none
    | _, _ => none
  else none

/-- The character of the standard that a code above the composed ones has. The letters that have
composed codes have no other. -/
def packedKorean? (first second : Nat) : Option Char :=
  if (0xD9 ≤ first ∧ first ≤ 0xDE ∨ 0xE0 ≤ first ∧ first ≤ 0xF9) ∧
      (0x31 ≤ second ∧ second ≤ 0x7E ∨ 0x91 ≤ second ∧ second ≤ 0xFE) then
    let row := if first < 0xE0 then 2 * (first - 0xD9) else 2 * first - 0x197
    let place := if 0x91 ≤ second then second - 0x43 else second - 0x31
    let code := codeOf (row + place / 94 + 0x21) (place % 94 + 0x21)
    if 0x2421 ≤ code ∧ code ≤ 0x2453 then none else korean.find? code
  else none

def johab : Charset :=
  multibyte ["johab", "cp1361", "ms1361"] "johab" ()
    (orAscii (pairOf fun first second =>
      if first < 0xD8 then composedSyllable? (codeOf first second)
      else packedKorean? first second))

def allKorean : List Charset := [extendedKorean, windows949, johab]

end KconfigReference.Charset
