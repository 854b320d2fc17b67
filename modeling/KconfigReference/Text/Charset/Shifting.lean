import KconfigReference.Text.Charset.Chinese
import KconfigReference.Text.Charset.Iso8859
import KconfigReference.Text.Charset.Japanese
import KconfigReference.Text.Charset.Korean

/-!
Character sets of seven bits. An escape sequence puts one of several sets into a slot, and the bytes
after it are read in the set of the slot in use; so what a byte stands for depends on all before it.
-/

namespace KconfigReference.Charset

/-- A set that an escape sequence can name. -/
structure Designation where
  /-- How many bytes stand for a character. -/
  width : Nat
  /-- The last byte of the sequence. -/
  mark : Char
  /-- What the bytes, as one code, stand for. -/
  points? : Nat → Option CodeText

namespace Designation

def ofCharacters (width : Nat) (mark : Char) (character? : Nat → Option Char) : Designation :=
  ⟨width, mark, fun code => (character? code).map fun c => [.char c]⟩

def ascii : Designation := ofCharacters 1 'B' fun code => some (Char.ofNat code)

def japaneseRoman : Designation :=
  ofCharacters 1 'J' fun code =>
    some (if code = 0x5C then '¥' else if code = 0x7E then '‾' else Char.ofNat code)

def japaneseSyllables : Designation :=
  ofCharacters 1 'I' fun code => smallSyllable? (code + 0x80)

def japaneseStandard : Designation := ofCharacters 2 'B' japanese.find?

def japaneseOldStandard : Designation := ofCharacters 2 '@' japanese.find?

def japaneseSupplementary : Designation := ofCharacters 2 'D' japaneseSupplement.find?

def firstPlane (mark : Char) (edition : Edition) : Designation :=
  ⟨2, mark, fun code => if code = 0x2232 then some [.char '~'] else edition.firstPlane? code⟩

def secondPlane : Designation := ofCharacters 2 'P' editionOf2004.secondPlane?

def koreanStandard : Designation := ofCharacters 2 'C' korean.find?

def chineseStandard : Designation := ofCharacters 2 'A' chinese.find?

/-- The sets of Latin and Greek letters, which are read from the third slot only. -/
def latinLetters : Designation := ofCharacters 1 'A' fun _ => none

def greekLetters : Designation := ofCharacters 1 'F' fun _ => none

end Designation

/-- What the escape sequences of a coding can do. -/
structure ShiftingRule where
  /-- The sets that they can name besides ASCII. -/
  designations : List Designation
  /-- Whether single bytes change between the first and the second slot. -/
  hasShifts : Bool
  /-- Whether there is a third slot, of which a sequence reads one character. -/
  hasThird : Bool
  /-- Whether a sequence may tell first that it names a later edition of a set. -/
  hasRevisions : Bool

structure Shifting where
  first : Designation
  second : Designation
  third : Designation
  /-- Whether the second slot is in use. -/
  isShifted : Bool
  /-- Whether an unknown sequence goes on, which is kept as it is. -/
  isPassing : Bool

namespace Shifting

def start : Shifting := ⟨.ascii, .ascii, .ascii, false, false⟩

/-- Puts a set into the slot of a number. -/
def put (s : Shifting) (set : Designation) : Nat → Shifting
  | 0 => { s with first := set }
  | 1 => { s with second := set }
  | _ => { s with third := set }

end Shifting

def escapeByte : UInt8 := 0x1B

/-- Whether a byte ends an escape sequence. -/
def endsSequence (byte : UInt8) : Bool := 0x40 ≤ byte.toNat && byte.toNat ≤ 0x5A

/-- How long an escape sequence is. -/
inductive SequenceLength where
  | known (width : Nat)
  | unfinished
  | tooGreat

/-- The greatest number of bytes of a sequence after the escape. -/
def sequenceLimit : Nat := 15

/-- The length of a sequence of which some bytes have been seen. An ampersand and an at sign belong
to the escape after them. The first argument bounds the bytes. -/
def sequenceLength (rule : ShiftingRule) (bound width : Nat) : Bytes → SequenceLength
  | [] => if bound = 0 then .tooGreat else .unfinished
  | byte :: rest =>
      if bound = 0 then .tooGreat
      else if endsSequence byte then .known (width + 1)
      else if rule.hasRevisions && byte = 0x26 && rest.head? = some 0x40 then
        match rest with
        | _ :: _ :: more => sequenceLength rule (bound - 3) (width + 3) more
        | _ => if bound ≤ 3 then .tooGreat else .unfinished
      else sequenceLength rule (bound - 1) (width + 1) rest

/-- The slot and the set, by its width and its mark, that a whole sequence names. -/
def designated? (rule : ShiftingRule) (sequence : Bytes) : Option (Nat × Nat × Char) :=
  match sequence.map fun byte => Char.ofNat byte.toNat with
  | [_, '$', mark] => some (0, 2, mark)
  | [_, '(', mark] => some (0, 1, mark)
  | [_, ')', mark] => some (1, 1, mark)
  | [_, '.', mark] => if rule.hasThird then some (2, 1, mark) else none
  | [_, '$', '(', mark] => some (0, 2, mark)
  | [_, '$', ')', mark] => some (1, 2, mark)
  | [_, _, _, '\x1b', '$', 'B'] => if rule.hasRevisions then some (0, 2, 'B') else none
  | _ => none

/-- Reads an escape sequence that names a set. -/
def readSequence (rule : ShiftingRule) (s : Shifting) (rest : Bytes) : Reading Shifting :=
  match sequenceLength rule sequenceLimit 1 rest with
  | .unfinished => .unfinished
  | .tooGreat => .illegal 1
  | .known width =>
      let found := do
        let (slot, size, mark) ← designated? rule ((escapeByte :: rest).take width)
        let set ← (.ascii :: rule.designations).find? fun set => set.width = size && set.mark = mark
        some (s.put set slot)
      match found with
      | some after => .code [] width after
      | none => .illegal width

/-- The Greek set as it was first: these bytes had no characters. -/
def notInFirstGreek : List UInt8 := [0xA4, 0xA5, 0xAA]

/-- The character that a byte stands for in the third slot: those of Latin and Greek letters have
the upper halves of their sets in it. -/
def thirdCharacter? (set : Designation) (byte : UInt8) : Option Char :=
  if set.mark = 'F' then
    let other := byte ^^^ 0x80
    match if notInFirstGreek.contains other then .ok [] else latinGreek.decode [other] with
    | .ok [.char c] => some c
    | _ => none
  else if 0x80 ≤ byte.toNat then none
  else some (Char.ofNat (if set.mark = 'A' then byte.toNat + 0x80 else byte.toNat))

/-- Reads a character of the set in use. -/
def readDesignated (s : Shifting) (byte : UInt8) (rest : Bytes) : Reading Shifting :=
  let set := if s.isShifted then s.second else s.first
  let bytes := (byte :: rest).take set.width
  if bytes.length < set.width then .unfinished
  else
    match set.points? (bytes.foldl (fun n b => codeOf n b.toNat) 0) with
    | some points => .code points set.width s
    | none => .illegal set.width

def shiftingNext (rule : ShiftingRule) (s : Shifting) (byte : UInt8) (rest : Bytes) :
    Reading Shifting :=
  let asItIs (s : Shifting) : Reading Shifting := .code [.char (Char.ofNat byte.toNat)] 1 s
  if s.isPassing then asItIs { s with isPassing := !endsSequence byte }
  else if byte = escapeByte then
    match rest with
    | [] => .unfinished
    | second :: more =>
        if ("()$.&".toList.map fun c => UInt8.ofNat c.toNat).contains second then
          readSequence rule s rest
        else if rule.hasThird && second = 0x4E then
          match more with
          | [] => .unfinished
          | third :: _ =>
              match thirdCharacter? s.third third with
              | some c => .code [.char c] 3 s
              | none => .illegal 3
        else asItIs { s with isPassing := true }
  else if byte = 0x0F && rule.hasShifts then .code [] 1 { s with isShifted := false }
  else if byte = 0x0E && rule.hasShifts then .code [] 1 { s with isShifted := true }
  else if byte = 0x0A then asItIs { s with isShifted := false }
  else if byte.toNat < 0x20 then asItIs s
  else if 0x80 ≤ byte.toNat then .illegal 1
  else readDesignated s byte rest

/-- A coding of Japanese whose sequences name the standard and other sets. -/
def shiftingJapanese (names : List String) (decoder : String) (others : List Designation)
    (hasThird : Bool) : Charset :=
  multibyte names decoder .start
    (shiftingNext ⟨.japaneseStandard :: others, false, hasThird, true⟩)

def shiftingKorean : Charset :=
  multibyte ["iso2022_kr", "csiso2022kr", "iso2022kr", "iso_2022_kr"] "iso2022_kr" .start
    (shiftingNext ⟨[.koreanStandard], true, false, false⟩)

/-- A coding of Chinese in which a tilde begins a sequence of two bytes: they turn characters of two
bytes on and off, or stand for a tilde or for nothing. The state tells whether they are on. -/
def tildeChinese : Charset :=
  multibyte ["hz", "hzgb", "hz_gb", "hz_gb_2312"] "hz" false next
where
  afterTilde (isDouble : Bool) (second : UInt8) : Reading Bool :=
    match isDouble, Char.ofNat second.toNat with
    | false, '~' => .code [.char '~'] 2 false
    | false, '\x7b' => .code [] 2 true
    | false, '\n' => .code [] 2 false
    | true, '\x7d' => .code [] 2 false
    | _, _ => .illegal 1
  next (isDouble : Bool) (byte : UInt8) (rest : Bytes) : Reading Bool :=
    if byte = 0x7E then
      match rest with
      | [] => .unfinished
      | second :: _ => afterTilde isDouble second
    else if 0x80 ≤ byte.toNat then .illegal 1
    else if isDouble then
      match rest with
      | [] => .unfinished
      | second :: _ =>
          match chinese.find? (codeOf byte.toNat second.toNat) with
          | some c => .code [.char c] 2 true
          | none => .illegal 1
    else .code [.char (Char.ofNat byte.toNat)] 1 false

def allShifting : List Charset :=
  [shiftingJapanese ["iso2022_jp", "csiso2022jp", "iso2022jp", "iso_2022_jp"] "iso2022_jp"
      [.japaneseRoman, .japaneseOldStandard] false,
    shiftingJapanese ["iso2022_jp_1", "iso2022jp_1", "iso_2022_jp_1"] "iso2022_jp_1"
      [.japaneseSupplementary, .japaneseRoman, .japaneseOldStandard] false,
    shiftingJapanese ["iso2022_jp_2", "iso2022jp_2", "iso_2022_jp_2"] "iso2022_jp_2"
      [.japaneseSupplementary, .koreanStandard, .chineseStandard, .japaneseRoman,
        .japaneseOldStandard, .latinLetters, .greekLetters] true,
    shiftingJapanese ["iso2022_jp_2004", "iso2022jp_2004", "iso_2022_jp_2004"] "iso2022_jp_2004"
      [.firstPlane 'Q' editionOf2004, .secondPlane] false,
    shiftingJapanese ["iso2022_jp_3", "iso2022jp_3", "iso_2022_jp_3"] "iso2022_jp_3"
      [.firstPlane 'O' editionOf2000, .secondPlane] false,
    shiftingJapanese ["iso2022_jp_ext", "iso2022jp_ext", "iso_2022_jp_ext"] "iso2022_jp_ext"
      [.japaneseSupplementary, .japaneseRoman, .japaneseSyllables, .japaneseOldStandard] false,
    shiftingKorean, tildeChinese]

end KconfigReference.Charset
