import KconfigReference.Text.Charset.Basic
import KconfigReference.Text.Charset.Chinese
import KconfigReference.Text.Charset.CodePage
import KconfigReference.Text.Charset.Domain
import KconfigReference.Text.Charset.Iso8859
import KconfigReference.Text.Charset.Japanese
import KconfigReference.Text.Charset.Korean
import KconfigReference.Text.Charset.Macintosh
import KconfigReference.Text.Charset.Mainframe
import KconfigReference.Text.Charset.National
import KconfigReference.Text.Charset.Shifting
import KconfigReference.Text.Charset.Units
import KconfigReference.Text.Charset.Windows

/-!
All character sets that are known but UTF-8, and how one is found by its name.
-/

namespace KconfigReference.Charset

/-- A name that stands for no set. -/
def undefined : Charset := ⟨["undefined"], fun _ => .error (.refused "undefined encoding")⟩

def all : List Charset :=
  [ascii, latin1] ++ allIso8859 ++ allWindows ++ allCodePage ++ allMacintosh ++ allNational ++
    allMainframe ++ allJapanese ++ allChinese ++ allKorean ++ allShifting ++ allOfUnits ++
    [utf7, escaped, escapedSparingly, punycode, idna, undefined]

/-- The names of transformations of bytes that give no text. -/
def transformations : List (List String) :=
  [["base64_codec", "base64", "base_64"], ["bz2_codec", "bz2"], ["hex_codec", "hex"],
    ["quopri_codec", "quopri", "quoted_printable", "quotedprintable"], ["rot_13", "rot13"],
    ["uu_codec", "uu"], ["zlib_codec", "zip", "zlib"]]

/-- The names of UTF-8. -/
def utf8Names : List String := ["utf_8", "cp65001", "u8", "utf", "utf8", "utf8_ucs2", "utf8_ucs4"]

/-- A name as it is looked up: in small letters, with one underscore for all marks between two
letters or digits, points excepted. -/
def normalName (name : Text) : Text :=
  let words := Text.pieces (fun c => c = '-' || c = '_') (name.map Char.toLower)
  Text.join "_" (words.filter (· ≠ []))

/-- Whether a name is one of some names. A point may also stand for an underscore, but not in the
first of them. -/
def isAmong (names : List String) (name : Text) : Bool :=
  let normal := normalName name
  let pointless := normal.map fun c => if c = '.' then '_' else c
  names.any (·.toList = normal) || names.tail.any (·.toList = pointless)

/-- The character set of a name. -/
def ofName? (name : Text) : Option Charset := all.find? fun set => isAmong set.names name

def isTransformation (name : Text) : Bool := transformations.any fun names => isAmong names name

def isUtf8 (name : Text) : Bool := isAmong utf8Names name || isAmong ["utf_8_sig"] name

end KconfigReference.Charset
