import KconfigReference.Text.Base64
import KconfigReference.Text.Charset.Basic
import KconfigReference.Text.Escape

/-!
Unicode in units of two or of four bytes, in seven bits, and in escapes. The order of the bytes of a
unit is part of the name of such a coding, or is told by a mark at the beginning, or the lower byte
comes first. In seven bits, what is not ASCII stands in sections: a plus sign, and then units of two
bytes as digits of base 64, up to the first character that is no such digit. A hyphen that ends a
section belongs to it.
-/

namespace KconfigReference.Charset

inductive ByteOrder where
  | lowFirst
  | highFirst

namespace ByteOrder

/-- The number of a unit. -/
def number (order : ByteOrder) (unit : Bytes) : Nat :=
  let highFirst := match order with
    | lowFirst => unit.reverse
    | highFirst => unit
  highFirst.foldl (fun n byte => codeOf n byte.toNat) 0

/-- How a decoder tells the order after its name. -/
def suffix : ByteOrder → String
  | lowFirst => "-le"
  | highFirst => "-be"

end ByteOrder

/-- The number of the mark that tells the order. -/
def orderMark : Nat := 0xFEFF

/-- The order of bytes, and the place where their text begins: after the mark, if the order is not
given and there is one. -/
def orderOf (size : Nat) (given : Option ByteOrder) (bytes : Bytes) : ByteOrder × Nat :=
  let isMark (order : ByteOrder) : Bool :=
    (bytes.take size).length = size && order.number (bytes.take size) = orderMark
  match given with
  | some order => (order, 0)
  | none =>
      if isMark .lowFirst then (.lowFirst, size)
      else if isMark .highFirst then (.highFirst, size)
      else (.lowFirst, 0)

/-- A coding in units of some bytes. -/
def ofUnits (names : List String) (decoder : String) (size : Nat) (given : Option ByteOrder)
    (next : ByteOrder → UInt8 → Bytes → Reading Unit) : Charset where
  names := names
  decode bytes :=
    let (order, start) := orderOf size given bytes
    decodeFrom (decoder ++ order.suffix) (fun _ => next order) bytes.length start () []
      (bytes.drop start)

/-- Reads a unit of two bytes that is a character, or two that are a pair of surrogates. -/
def nextOfTwo (order : ByteOrder) (byte : UInt8) (rest : Bytes) : Reading Unit :=
  match rest with
  | [] => .stuck "truncated data"
  | second :: more =>
      match CodePoint.ofNat (order.number [byte, second]) with
      | .char c => .code [.char c] 2 ()
      | .half leading =>
          if !CodePoint.isLeading leading then .fault 2 "illegal encoding"
          else
            match more with
            | third :: fourth :: _ =>
                match CodePoint.ofNat (order.number [third, fourth]) with
                | .half trailing =>
                    if CodePoint.isLeading trailing then .fault 2 "illegal UTF-16 surrogate"
                    else .code [.char (CodePoint.pair leading trailing)] 4 ()
                | .char _ => .fault 2 "illegal UTF-16 surrogate"
            | _ => .stuck "unexpected end of data"

/-- Reads a unit of four bytes, the number of a character. -/
def nextOfFour (order : ByteOrder) (byte : UInt8) (rest : Bytes) : Reading Unit :=
  let unit := (byte :: rest).take 4
  let n := order.number unit
  if unit.length < 4 then .stuck "truncated data"
  else if 0x10FFFF < n then .fault 4 "code point not in range(0x110000)"
  else
    match CodePoint.ofNat n with
    | .char c => .code [.char c] 4 ()
    | .half _ => .fault 4 "code point in surrogate code point range(0xd800, 0xe000)"

def allOfUnits : List Charset :=
  let ofTwo (names : List String) (order : Option ByteOrder) : Charset :=
    ofUnits names "utf-16" 2 order nextOfTwo
  let ofFour (names : List String) (order : Option ByteOrder) : Charset :=
    ofUnits names "utf-32" 4 order nextOfFour
  [ofTwo ["utf_16", "u16", "utf16"] none,
    ofTwo ["utf_16_le", "unicodelittleunmarked", "utf_16le"] (some .lowFirst),
    ofTwo ["utf_16_be", "unicodebigunmarked", "utf_16be"] (some .highFirst),
    ofFour ["utf_32", "u32", "utf32"] none,
    ofFour ["utf_32_le", "utf_32le"] (some .lowFirst),
    ofFour ["utf_32_be", "utf_32be"] (some .highFirst)]

/-- The units of two bytes of a list of digits of base 64, and how many bits are left over and what
they are. -/
def unitsOfDigits (digits : List Nat) : List Nat × Nat × Nat :=
  let step (read : List Nat × Nat × Nat) (digit : Nat) : List Nat × Nat × Nat :=
    let (units, bits, left) := read
    let left := left * 64 + digit
    let spare := bits - 10
    if 10 ≤ bits then ((left >>> spare) :: units, spare, left % (1 <<< spare))
    else (units, bits + 6, left)
  let (units, bits, left) := digits.foldl step ([], 0, 0)
  (units.reverse, bits, left)

/-- Whether the last unit is the first half of a pair. -/
def endsInLeading (units : List Nat) : Bool :=
  match units.getLast?.map CodePoint.ofNat with
  | some (.half offset) => CodePoint.isLeading offset
  | _ => false

def digitOf? (byte : UInt8) : Option Nat := Base64.digit? (Char.ofNat byte.toNat)

/-- Reads a section after its plus sign. A hyphen alone makes the sign itself. -/
def nextSection (rest : Bytes) : Reading Unit :=
  let digits := rest.takeWhile fun byte => (digitOf? byte).isSome
  let (units, bits, left) := unitsOfDigits (digits.filterMap digitOf?)
  let width := digits.length + 1
  match rest.drop digits.length with
  | [] =>
      if 6 ≤ bits || left ≠ 0 || endsInLeading units then .stuck "unterminated shift sequence"
      else .code (CodeText.paired (units.map .ofNat)) width ()
  | ending :: _ =>
      let isHyphen : Bool := ending = 0x2D
      if digits = [] then
        if isHyphen then .code [.char '+'] 2 () else .fault 2 "ill-formed sequence"
      else if 6 ≤ bits then .fault (width + 1) "partial character in shift sequence"
      else if left ≠ 0 then .fault (width + 1) "non-zero padding bits in shift sequence"
      else .code (CodeText.paired (units.map .ofNat)) (if isHyphen then width + 1 else width) ()

def utf7 : Charset :=
  multibyte ["utf_7", "u7", "utf7", "unicode_1_1_utf_7"] "utf7" () next
where
  next (_ : Unit) (byte : UInt8) (rest : Bytes) : Reading Unit :=
    if byte = 0x2B then nextSection rest
    else if 0x80 ≤ byte.toNat then .fault 1 "unexpected special character"
    else .code [.char (Char.ofNat byte.toNat)] 1 ()

/-- The characters of the numbers of bytes. -/
def charactersOf (bytes : Bytes) : Text := bytes.map fun byte => Char.ofNat byte.toNat

/-- The characters that an escape may take: a name up to its brace, or a letter and digits. -/
def reachOf (rest : Bytes) : Text :=
  let width := if rest.head? = some 0x4E then (rest.takeWhile (· ≠ 0x7D)).length else 8
  charactersOf (rest.take (width + 1))

def readEscape (escape : Escape) : Reading Unit :=
  match escape with
  | .points points width => .code points (1 + width) ()
  | .fault width reason => .fault (1 + width) reason

/-- Every backslash begins an escape. -/
def escaped : Charset :=
  multibyte ["unicode_escape"] "unicodeescape" () next
where
  next (_ : Unit) (byte : UInt8) (rest : Bytes) : Reading Unit :=
    let c := Char.ofNat byte.toNat
    if c = '\\' then readEscape (.read (reachOf rest)) else .code [.char c] 1 ()

/-- Only characters by their numbers are escaped; a backslash before anything else stands for itself
and keeps what follows it. -/
def escapedSparingly : Charset :=
  multibyte ["raw_unicode_escape"] "rawunicodeescape" () next
where
  next (_ : Unit) (byte : UInt8) (rest : Bytes) : Reading Unit :=
    let c := Char.ofNat byte.toNat
    match c, reachOf rest with
    | '\\', letter :: more =>
        match letter, Escape.codeWidth? letter with
        | 'x', _ | _, none => .code [.char '\\', .char letter] 2 ()
        | _, some (width, tooFew) =>
            readEscape (.ofCode width tooFew "\\Uxxxxxxxx out of range" more)
    | _, _ => .code [.char c] 1 ()

end KconfigReference.Charset
