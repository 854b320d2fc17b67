import KconfigReference.Setting.Basic
import KconfigReference.Template.Assignment.Coding
import KconfigReference.Text.Digit
import KconfigReference.Text.Escape
import KconfigReference.Text.Quoted

/-!
Texts between quotation marks in templates of assignments. The letter `r` before the marks keeps
backslashes as they are, the letter `b` asks for bytes, and the letter `f` for a form, in which a
brace is written twice because a single one would begin a field. Marks are single or threefold, and
only between threefold ones may a line end without a backslash. What is read are bytes, each as the
character of its number.
-/

namespace KconfigReference.Assignment

/-- What is asked for between marks. -/
inductive QuoteKind where
  | text
  | bytes
  | form
deriving Repr, DecidableEq

structure QuoteStyle where
  isRaw : Bool
  kind : QuoteKind
deriving Repr, DecidableEq

namespace QuoteStyle

/-- The style of the letters before the marks. -/
def ofLetters? (letters : Text) : Option QuoteStyle :=
  match letters.map Char.toLower with
  | [] | ['u'] => some ⟨false, .text⟩
  | ['r'] => some ⟨true, .text⟩
  | ['b'] => some ⟨false, .bytes⟩
  | ['b', 'r'] | ['r', 'b'] => some ⟨true, .bytes⟩
  | ['f'] => some ⟨false, .form⟩
  | ['f', 'r'] | ['r', 'f'] => some ⟨true, .form⟩
  | _ => none

end QuoteStyle

/-- The marks that open a text at the beginning of the rest, if one begins there. -/
def openingMarks? : Text → Option Text
  | c :: rest =>
      if c = '"' || c = '\'' then
        if rest.take 2 = [c, c] then some [c, c, c] else some [c]
      else none
  | [] => none

/-- Where the text between marks ends. -/
inductive Closing where
  | closed (body rest : Text)
  /-- The lines that were begun before the text broke off. -/
  | broken (lines : Nat)
deriving Repr, DecidableEq

namespace Closing

/-- What comes before a text that is closed. -/
def after (chars : Text) : Closing → Closing
  | closed body rest => closed (chars ++ body) rest
  | broken lines => broken (chars.count '\n' + lines)

end Closing

/-- The characters up to the closing marks, backslashes and all. The line feed at the end of the
whole text begins no line. -/
def untilMarks (marks : Text) : Text → Closing
  | [] | ['\n'] | ['\\', '\n'] => .broken 0
  | '\\' :: c :: rest => (untilMarks marks rest).after ['\\', c]
  | c :: rest =>
      if marks.isPrefixOf (c :: rest) then .closed [] ((c :: rest).drop marks.length)
      else if c = '\n' && marks.length = 1 then .broken 0
      else (untilMarks marks rest).after [c]

/-- The bytes that some characters stand for. -/
def bytesOf (octets : Text) : Bytes := octets.map fun c => UInt8.ofNat c.toNat

/-- The text of bytes in UTF-8, or the report of what is wrong with them. -/
def decoded (octets : Text) : Except Text Text :=
  (Coding.decodeUtf8 (bytesOf octets)).mapError ("(unicode error) " ++ ·)

/-- The place that a character beyond ASCII takes where it is escaped. -/
def escapedWidth : Nat := 10

/-- The place that a backslash before such a character takes. -/
def escapedBackslashWidth : Nat := 6

/-- The place that bytes take where characters beyond ASCII are escaped. -/
def placesOf : Text → Nat
  | [] => 0
  | '\\' :: c :: rest =>
      if c.toNat < 0x80 then 2 + placesOf rest else escapedBackslashWidth + placesOf (c :: rest)
  | c :: rest =>
      (if c.toNat < 0x80 then 1 else if c.toNat < 0xC0 then 0 else escapedWidth) + placesOf rest

/-- The fault of an escape that begins at a place and takes some characters. -/
def escapeFault (place width : Nat) (reason : Text) : Text :=
  "(unicode error) 'unicodeescape' codec can't decode bytes in position " ++ Text.ofNat place ++
    "-" ++ Text.ofNat (place + width - 1) ++ ": " ++ reason

/-- The text that a body denotes. `place` counts the characters before it, where those beyond ASCII
are escaped, and `kept` is how many of them have been read. -/
def textOfBody (place : Nat) (kept : Nat) : Text → Except Text CodeText
  | [] => .ok []
  | c :: rest => do
      if 0 < kept then textOfBody (place + 1) (kept - 1) rest
      else if 0x80 ≤ c.toNat then
        let run := c :: rest.takeWhile (0x80 ≤ ·.toNat)
        let text ← decoded run
        let width := escapedWidth * text.length
        pure (text ++ (← textOfBody (place + width - (run.length - 1)) (run.length - 1) rest))
      else if c ≠ '\\' || rest = [] then pure (.char c :: (← textOfBody (place + 1) 0 rest))
      else
        match Escape.read rest with
        | .points points width =>
            let isEscaped := width = 0 && rest.head?.any (0x80 ≤ ·.toNat)
            let next := place + if isEscaped then escapedBackslashWidth else 1
            pure (points ++ (← textOfBody next width rest))
        | .fault width reason =>
            throw (escapeFault place (placesOf (c :: rest.take width)) reason)

/-- The bytes that a body of ASCII characters denotes, as `textOfBody` gives its text. -/
def bytesOfBody (place : Nat) (kept : Nat) : Text → Except Text Bytes
  | [] => .ok []
  | c :: rest => do
      let byte (n : Nat) := UInt8.ofNat n
      if 0 < kept then bytesOfBody (place + 1) (kept - 1) rest
      else if c ≠ '\\' then pure (byte c.toNat :: (← bytesOfBody (place + 1) 0 rest))
      else
        match rest with
        | [] => pure [byte '\\'.toNat]
        | letter :: more =>
            let octal := Escape.octalDigits (letter :: more)
            let digits := more.take 2
            if letter = 'x' then
              match if digits.length = 2 then Text.hexNumber? digits else none with
              | some code => pure (byte code :: (← bytesOfBody (place + 1) 3 (letter :: more)))
              | none =>
                  throw ("(value error) invalid \\x escape at position ".toList ++ Text.ofNat place)
            else if letter = '\n' then bytesOfBody (place + 1) 1 (letter :: more)
            else if octal ≠ [] then
              pure (byte (Escape.octalNumber octal) ::
                (← bytesOfBody (place + 1) octal.length (letter :: more)))
            else
              match Escape.ofLetter? letter with
              | some char =>
                  pure (byte char.toNat :: (← bytesOfBody (place + 1) 1 (letter :: more)))
              | none => pure (byte '\\'.toNat :: (← bytesOfBody (place + 1) 0 (letter :: more)))

/-- What is wrong with a text between marks. -/
inductive QuoteFault where
  /-- What is reported of the line in which the text begins. -/
  | here (message : Text)
  /-- What is reported of the line of the token after it. -/
  | behind (message : Text)

/-- Where a character of a form stands. -/
inductive FormPlace where
  | plain
  /-- After a backslash. -/
  | escaped
  /-- After the letter that asks for a name. -/
  | beforeName
  | inName

/-- What is wrong with a field, by what follows its brace. -/
def fieldFault (rest : Text) : Text :=
  let field := rest.takeWhile (· ≠ '\x7d')
  if field.contains '\\' then "f-string expression part cannot include a backslash"
  else if field.length = rest.length then "f-string: expecting '\x7d'"
  else if field.all Text.isBlank then "f-string: empty expression not allowed"
  else "f-string: invalid syntax"

/-- What is wrong with a form where a single brace stands before some text, and the part before it:
a closing brace leaves that out. -/
def brokenForm (part : Text) (brace : Char) (rest : Text) : List Text × Option Text :=
  if brace = '\x7d' then ([], some "f-string: single '\x7d' is not allowed")
  else ([part.reverse], some (fieldFault rest))

/-- The parts of a form, each of which ends with one of two braces, and what is wrong with the next
one. `part` are the characters of the first part so far, the last one first. -/
def partsOfForm (isRaw : Bool) (place : FormPlace) (part : Text) : Text → List Text × Option Text
  | [] => ([part.reverse], none)
  | c :: rest =>
      let goOn (place : FormPlace) := partsOfForm isRaw place (c :: part) rest
      match place with
      | .inName => goOn (if c = '\x7d' then .plain else .inName)
      | .beforeName => goOn (if c = '\x7b' then .inName else .plain)
      | place =>
          if c = '\x7b' ∨ c = '\x7d' then
            match rest with
            | d :: more =>
                if d = c then
                  let (others, fault) := partsOfForm isRaw .plain [] more
                  ((c :: part).reverse :: others, fault)
                else brokenForm part c rest
            | [] => brokenForm part c rest
          else
            match place with
            | .escaped => goOn (if c = 'N' then .beforeName else .plain)
            | _ => goOn (if c = '\\' && !isRaw then .escaped else .plain)

/-- The text of a body, in which backslashes escape unless it is raw. All its bytes have to be text
before an escape among them counts. -/
def textOf (isRaw : Bool) (body : Text) : Except Text CodeText :=
  if isRaw || !body.contains '\\' then (decoded body).map fun text => text
  else do
    let _ ← (Text.pieces (·.toNat < 0x80) body).mapM decoded
    textOfBody 0 0 body

/-- The text of a form without fields. -/
def textOfForm (isRaw : Bool) (body : Text) : Except Text CodeText := do
  let (parts, fault) := partsOfForm isRaw .plain [] body
  let texts ← parts.mapM (textOf isRaw)
  match fault with
  | some message => throw message
  | none => pure texts.flatten

/-- What a body in a style denotes. -/
def settingOfBody (style : QuoteStyle) (body : Text) : Except QuoteFault Setting :=
  match style.kind with
  | .bytes =>
      if !body.all (·.toNat < 0x80) then
        .error (.here "bytes can only contain ASCII literal characters")
      else if style.isRaw then .ok (.bytes (bytesOf body))
      else ((bytesOfBody 0 0 body).map .bytes).mapError .behind
  | .text => ((textOf style.isRaw body).map .text).mapError .behind
  | .form => ((textOfForm style.isRaw body).map .text).mapError .behind

end KconfigReference.Assignment
