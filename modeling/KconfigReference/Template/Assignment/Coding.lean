import KconfigReference.Template.Assignment.Basic
import KconfigReference.Text.Basic
import KconfigReference.Text.Charset.Known

/-!
The text of a template of assignments. A comment in one of its first two lines may say which coding
it has; without one it is UTF-8.
-/

namespace KconfigReference.Assignment

namespace Coding

/-- The white space before a comment. -/
def isMargin (c : Char) : Bool := c = ' ' || c = '\t' || c = '\x0c'

def isNameChar (c : Char) : Bool := c.isAlphanum || c = '-' || c = '_' || c = '.'

/-- The name after the first word `coding` that a colon or an equals sign and a name follow. -/
def nameIn? : Text → Option Text
  | [] => none
  | c :: rest =>
      let here : Option Text :=
        match "coding".toList.isPrefixOf (c :: rest), (c :: rest).drop 6 with
        | true, mark :: more =>
            let name := (more.dropWhile fun c => c = ' ' || c = '\t').takeWhile isNameChar
            if (mark = ':' || mark = '=') && name ≠ [] then some name else none
        | _, _ => none
      match here with
      | some name => some name
      | none => nameIn? rest

/-- The coding that a line names, which has to be nothing but a comment. -/
def ofLine? (line : Text) : Option Text :=
  match line.dropWhile isMargin with
  | '#' :: comment => nameIn? comment
  | _ => none

/-- Whether a line leaves it to the next one to name the coding. -/
def isOpen (line : Text) : Bool :=
  match line.dropWhile isMargin with
  | [] => true
  | c :: _ => c = '#' || c = '\n'

/-- The coding that the first lines of a text name. -/
def named? (text : Text) : Option Text :=
  match Text.physicalLines text with
  | [] => none
  | first :: rest =>
      match ofLine? first with
      | some name => some name
      | none => if isOpen first then rest.head?.bind ofLine? else none

/-- The common name of two codings that are called in many ways: small letters, hyphens, and
perhaps more after another hyphen. -/
def commonName (name : Text) : Text :=
  let plain := (name.take 12).map fun c => if c = '_' then '-' else c.toLower
  let isOne (known : String) : Bool :=
    plain = known.toList || (known.toList ++ ['-']).isPrefixOf plain
  if isOne "utf-8" then "utf-8"
  else if isOne "latin-1" || isOne "iso-8859-1" || isOne "iso-latin-1" then "iso-8859-1"
  else name

/-- The bytes with every line ending in a line feed, the last line too. A carriage return and a line
feed at the very end are two line ends. -/
def withLineFeeds : Bytes → Bytes
  | [] => []
  | [13] => [10]
  | [13, 10] => [10, 10]
  | [10] => [10]
  | [byte] => [byte, 10]
  | 13 :: 10 :: rest => 10 :: withLineFeeds rest
  | byte :: rest => (if byte = 13 then 10 else byte) :: withLineFeeds rest

/-- The report of bytes that a coding has no characters for. -/
def undecodable (codec : Text) (bytes : Bytes) (index : Nat) (reason : Text) : Text :=
  let place := Text.ofNat index
  let what : Text := match bytes with
    | [byte] => "byte 0x" ++ Text.hex 2 byte.toNat ++ " in position " ++ place
    | several =>
        "bytes in position " ++ place ++ "-" ++ Text.ofNat (index + several.length - 1)
  "'" ++ codec ++ "' codec can't decode " ++ what ++ ": " ++ reason

def notUtf8 (found : Utf8.Flawed) : Text :=
  undecodable "utf-8" found.bytes found.index
    (match found.flaw with
      | .start => "invalid start byte"
      | .continuation => "invalid continuation byte"
      | .incomplete => "unexpected end of data")

/-- The text of bytes in UTF-8, or the report of what is wrong with them. -/
def decodeUtf8 (bytes : Bytes) : Except Text Text :=
  match Utf8.flawed? none [] 0 bytes with
  | some found => .error (notUtf8 found)
  | none => .ok (Utf8.decodeLenient bytes)

/-- The report of a text that has halves of pairs, given the place of the first one. -/
def unencodable (index : Nat) (halves : List (Fin 0x800)) : Text :=
  let place := Text.ofNat index
  let what : Text := match halves with
    | [half] => "character '\\u" ++ Text.hex 4 (0xD800 + half.val) ++ "' in position " ++ place
    | several =>
        "characters in position " ++ place ++ "-" ++ Text.ofNat (index + several.length - 1)
  "'utf-8' codec can't encode " ++ what ++ ": surrogates not allowed"

/-- The halves of pairs at the beginning of a text. -/
def leadingHalves : CodeText → List (Fin 0x800)
  | .half offset :: rest => offset :: leadingHalves rest
  | _ => []

/-- The bytes of a text in UTF-8, or the report of the first halves in it. -/
def encodeUtf8 (text : CodeText) : Except Text Bytes :=
  match text.plain? with
  | some plain => .ok (Utf8.encode plain)
  | none =>
      let before := text.takeWhile (·.char?.isSome)
      .error (unencodable before.length (leadingHalves (text.drop before.length)))

/-- The report of what is wrong with bytes in a coding that is named. -/
def notInCharset (name : Text) : Charset.Fault → Text
  | .undecodable decoder bytes index reason => undecodable decoder bytes index reason
  | .refused message => Charset.failed name message
  | .stated message => message

/-- The bytes in UTF-8 of bytes in a coding that is named. A NUL character ends the text. -/
def toUtf8 (name : Text) (bytes : Bytes) : Except Text Bytes :=
  if name = "utf-8" then .ok bytes
  else if Charset.isUtf8 name then (decodeUtf8 bytes).map fun _ => bytes
  else if Charset.isTransformation name then
    .error ("'" ++ name ++
      "' is not a text encoding; use codecs.decode() to handle arbitrary codecs")
  else
    match Charset.ofName? name with
    | none => .error ("unknown encoding: " ++ name)
    | some set =>
        match set.decode bytes with
        | .ok text => (encodeUtf8 text).map (·.takeWhile (· ≠ 0))
        | .error fault => .error (notInCharset name fault)

end Coding

/-- The bytes of a template in UTF-8, every line of it ending in a line feed. A byte order mark
stands for UTF-8 and for no other coding. Bytes that are no text are left for those who read
them. -/
def sourceOf (content : Bytes) : Except Fault Bytes := do
  if content.contains 0 then throw .nullCharacter
  let (marked, bytes) := match content with
    | 0xEF :: 0xBB :: 0xBF :: rest => (true, Coding.withLineFeeds rest)
    | all => (false, Coding.withLineFeeds all)
  match (Coding.named? (Utf8.decodeLenient bytes)).map Coding.commonName with
  | none => pure bytes
  | some name =>
      if marked && name ≠ "utf-8" then
        throw (.malformed ("encoding problem: " ++ name ++ " with BOM") 0)
      else (Coding.toUtf8 name bytes).mapError fun message => .malformed message 0

end KconfigReference.Assignment
