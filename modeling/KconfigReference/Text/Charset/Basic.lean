import KconfigReference.Text.CodePoint

/-!
Character sets: how bytes are read as a text. A set has several names. Its tables are lists of runs:
the code of the first character of a run, and its characters, whose codes follow each other.

In the simplest sets every byte with a character stands for the character of its own number: ASCII,
which has characters for the lower half only, and the first Latin set.
-/

namespace KconfigReference

namespace Charset

/-- Why bytes are not a text in a set. -/
inductive Fault where
  /-- What a decoder reports of some bytes at a place. -/
  | undecodable (decoder : String) (bytes : Bytes) (index : Nat) (reason : String)
  /-- What it reports of the bytes as a whole. -/
  | refused (message : Text)
  /-- What is reported as it is. -/
  | stated (message : Text)

end Charset

structure Charset where
  /-- The names of the set, the main one first: small letters, with underscores for other marks. -/
  names : List String
  decode : Bytes → Except Charset.Fault CodeText

namespace Charset

/-- The characters of some codes. -/
abbrev CodeTable := List (Nat × String)

/-- No run of a table is longer. -/
def runLength : Nat := 96

namespace CodeTable

/-- The character of a code. -/
def find? (table : CodeTable) (code : Nat) : Option Char :=
  table.findSome? fun (first, characters) =>
    if first ≤ code ∧ code < first + runLength then characters.toList[code - first]? else none

end CodeTable

/-- Stands in a table where there is no character. -/
def hole : Char := '\uFFFE'

/-- The character of a byte in a set of one byte a character, whose table has what does not stand
for the number of the byte itself. -/
def ofByte? (table : CodeTable) (byte : UInt8) : Option Char :=
  match table.find? byte.toNat with
  | some c => if c = hole then none else some c
  | none => some (Char.ofNat byte.toNat)

/-- Reads one byte after the other. -/
def decodeBytes (decoder reason : String) (character? : UInt8 → Option Char) (bytes : Bytes) :
    Except Fault Text :=
  bytes.zipIdx.mapM fun (byte, index) =>
    match character? byte with
    | some c => .ok c
    | none => .error (.undecodable decoder [byte] index reason)

/-- A set of one byte a character. -/
def singleByte (names : List String) (table : CodeTable) : Charset where
  names := names
  decode bytes :=
    let characters := (List.range 256).map fun n => ofByte? table (UInt8.ofNat n)
    let text := decodeBytes "charmap" "character maps to <undefined>"
      (fun byte => (characters[byte.toNat]?).join) bytes
    text.map fun t => t

/-- What the next bytes are, for a reader that may be in several states. -/
inductive Reading (σ : Type) where
  /-- The code points of some bytes, and the state after them. -/
  | code (points : CodeText) (width : Nat) (state : σ)
  /-- Bytes that stand for nothing, and why. -/
  | fault (width : Nat) (reason : String)
  /-- No reading of all that follows, and why. -/
  | stuck (reason : String)

namespace Reading

/-- Bytes that are no character. -/
def illegal (width : Nat) : Reading σ := .fault width "illegal multibyte sequence"

/-- Bytes that need more after them to be a character. -/
def unfinished : Reading σ := .stuck "incomplete multibyte sequence"

/-- The code points of some bytes, if there are any, in the only state. -/
def ofPoints (width : Nat) : Option CodeText → Reading Unit
  | some points => .code points width ()
  | none => .illegal 1

/-- One character of some bytes, if there is one, in the only state. -/
def ofOption (width : Nat) (character? : Option Char) : Reading Unit :=
  ofPoints width (character?.map fun c => [.char c])

end Reading

/-- Reads bytes from a place on, after the code points that have been read, the last one first. The
first argument bounds the steps. -/
def decodeFrom (decoder : String) (next : σ → UInt8 → Bytes → Reading σ) :
    Nat → Nat → σ → CodeText → Bytes → Except Fault CodeText
  | _, _, _, read, [] => .ok read.reverse
  | 0, _, _, read, _ => .ok read.reverse
  | bound + 1, index, state, read, byte :: rest =>
      match next state byte rest with
      | .code points width after =>
          decodeFrom decoder next bound (index + width) after (points.reverse ++ read)
            (rest.drop (width - 1))
      | .fault width reason =>
          .error (.undecodable decoder ((byte :: rest).take width) index reason)
      | .stuck reason => .error (.undecodable decoder (byte :: rest) index reason)

/-- A set of several bytes a character, read in states. -/
def multibyte (names : List String) (decoder : String) (start : σ)
    (next : σ → UInt8 → Bytes → Reading σ) : Charset where
  names := names
  decode bytes := decodeFrom decoder next bytes.length 0 start [] bytes

/-- Reads a byte of ASCII, and what else comes with another reader. -/
def orAscii (next : UInt8 → Bytes → Reading Unit) (_ : Unit) (byte : UInt8) (rest : Bytes) :
    Reading Unit :=
  if byte.toNat < 0x80 then .code [.char (Char.ofNat byte.toNat)] 1 () else next byte rest

/-- Reads two bytes as one character. -/
def pairOf (character? : Nat → Nat → Option Char) (byte : UInt8) (rest : Bytes) : Reading Unit :=
  match rest with
  | [] => .unfinished
  | second :: _ => .ofOption 2 (character? byte.toNat second.toNat)

/-- The code of two bytes. -/
def codeOf (first second : Nat) : Nat := first * 256 + second

/-- The code of two bytes that both have the highest bit, without it. -/
def lowCode? (first second : Nat) : Option Nat :=
  if 0x80 ≤ first ∧ 0x80 ≤ second then some (codeOf (first - 0x80) (second - 0x80)) else none

def asciiCharacter? (byte : UInt8) : Option Char :=
  if byte.toNat < 0x80 then some (Char.ofNat byte.toNat) else none

/-- The text of bytes of ASCII. -/
def asciiText (bytes : Bytes) : Except Fault Text :=
  decodeBytes "ascii" "ordinal not in range(128)" asciiCharacter? bytes

def ascii : Charset where
  names :=
    ["ascii", "646", "ansi_x3.4_1968", "ansi_x3_4_1968", "ansi_x3.4_1986", "cp367", "csascii",
      "ibm367", "iso646_us", "iso_646.irv_1991", "iso_ir_6", "us", "us_ascii"]
  decode bytes := (asciiText bytes).map fun t => t

def latin1 : Charset :=
  singleByte
    ["latin_1", "8859", "charmap", "cp819", "csisolatin1", "ibm819", "iso8859", "iso8859_1",
      "iso_8859_1", "iso_8859_1_1987", "iso_ir_100", "l1", "latin", "latin1"]
    []

end Charset

end KconfigReference
