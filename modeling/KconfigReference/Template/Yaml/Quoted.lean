import KconfigReference.Template.Yaml.Input
import KconfigReference.Text.CodePoint
import KconfigReference.Text.Digit

/-!
Quoted scalars. Line breaks in them are folded; between single quotation marks a doubled one stands
for one, and between double ones a backslash opens an escape.
-/

namespace KconfigReference.Yaml

open Scan

/-- The character of an escape of one letter. -/
def escaped? : Char → Option Char
  | '0' => some '\x00'
  | 'a' => some '\x07'
  | 'b' => some '\x08'
  | 't' => some '\t'
  | '\t' => some '\t'
  | 'n' => some '\n'
  | 'v' => some '\x0b'
  | 'f' => some '\x0c'
  | 'r' => some '\r'
  | 'e' => some '\x1b'
  | ' ' => some ' '
  | '"' => some '"'
  | '\\' => some '\\'
  | '/' => some '/'
  | 'N' => some '\x85'
  | '_' => some '\xa0'
  | 'L' => some '\u2028'
  | 'P' => some '\u2029'
  | _ => none

/-- The number of hexadecimal digits that follow an escape of a code point. -/
def codeWidth? : Char → Option Nat
  | 'x' => some 2
  | 'u' => some 4
  | 'U' => some 8
  | _ => none

/-- The code point of a number. -/
def codePointOf (code : Nat) : Except Fault CodePoint :=
  if code ≤ 0x10FFFF then .ok (.ofNat code)
  else if code < 0x80000000 then .error (.misused .badValue)
  else .error (.misused .overflow)

/-- The number that some hexadecimal digits denote, which have to come next from an offset on. -/
def hexDigits : Nat → Nat → Nat → Scan Nat
  | 0, _, value => pure value
  | count + 1, offset, value => do
      match (← peekAt offset).bind Text.hexDigit? with
      | some digit => hexDigits count (offset + 1) (value * 16 + digit)
      | none => malformed

/-- Takes the line breaks that come next and the white space around them. The line that opens or
closes a document ends no scalar. -/
def quotedBreaks : Nat → Scan (List Text)
  | 0 => malformed
  | bound + 1 => do
      if ← atDocumentMark then malformed
      skipRun isSpace
      if ← nextIs isBreak then
        let first ← lineBreak
        pure (first :: (← quotedBreaks bound))
      else pure []

/-- Takes white space in a quoted scalar: kept inside a line, folded around line breaks. -/
def quotedSpace : Scan Text := do
  let spaces ← takeRun isSpace
  match (← peek).map isBreak with
  | none => malformed
  | some false => pure spaces
  | some true =>
      let first ← lineBreak
      pure (foldBreaks first (← quotedBreaks (← get).bound))

/-- Takes an escape after its backslash, and gives what it stands for. -/
def escape : Scan CodeText := do
  match ← peek with
  | none => malformed
  | some c =>
      match escaped? c, codeWidth? c with
      | some plain, _ =>
          step
          pure [.char plain]
      | none, some width =>
          step
          let point ← codePointOf (← hexDigits width 0 0)
          advance width
          pure [point]
      | none, none =>
          if isBreak c then
            let _ ← lineBreak
            pure (← quotedBreaks (← get).bound).flatten
          else malformed

/-- The characters that neither end a quoted scalar nor mean something else than themselves in one
of the two kinds. -/
def isQuotable (c : Char) : Bool := c ≠ '\'' && c ≠ '"' && c ≠ '\\' && !isSpace c && !isBreak c

/-- Takes the value of a quoted scalar up to its closing mark. -/
def quotedTail (double : Bool) : Nat → Scan CodeText
  | 0 => malformed
  | bound + 1 => do
      let word : CodeText := (← takeRun isQuotable)
      match ← peek with
      | none => malformed
      | some c =>
          if c = '\'' && !double then
            if (← peekAt 1) = some '\'' then
              advance 2
              pure (word ++ CodePoint.char '\'' :: (← quotedTail double bound))
            else
              step
              pure word
          else if c = '"' && double then
            step
            pure word
          else if c = '\'' || c = '"' || (c = '\\' && !double) then
            step
            pure (word ++ CodePoint.char c :: (← quotedTail double bound))
          else if c = '\\' then
            step
            let part ← escape
            pure (word ++ part ++ (← quotedTail double bound))
          else
            let part ← quotedSpace
            pure (word ++ part ++ (← quotedTail double bound))

/-- Takes a quoted scalar, which comes next with its opening mark. -/
def quotedScalar : Scan CodeText := do
  let double := (← peek) = some '"'
  step
  quotedTail double (← get).bound

end KconfigReference.Yaml
