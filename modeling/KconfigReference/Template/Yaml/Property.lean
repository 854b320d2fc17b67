import KconfigReference.Template.Yaml.Input
import KconfigReference.Text.Digit

/-!
What stands before a node or a document besides its content: names of anchors, tags, directives.
-/

namespace KconfigReference.Yaml

open Scan

/-- Takes the name of an anchor or an alias with the mark before it. -/
def anchorName : Scan Text := do
  step
  let name ← run isNameChar
  if name = [] then malformed
  advance name.length
  let next ← peek
  if endsWord next || next.any (['?', ':', ',', ']', '\x7d', '%', '@', '\x60'].contains ·) then
    pure name
  else malformed

def isUriChar (c : Char) : Bool :=
  c.isAlphanum || ("-;/?:@&=+$,_.!~*'()[]" : Text).contains c

/-- Takes the bytes that are written as `%` and two hexadecimal digits each. -/
def percentBytes : Nat → Scan Bytes
  | 0 => pure []
  | bound + 1 => do
      if (← peek) = some '%' then
        step
        match (← peekAt 0).bind Text.hexDigit? with
        | none => malformed
        | some high =>
            match (← peekAt 1).bind Text.hexDigit? with
            | none => malformed
            | some low =>
                advance 2
                pure (UInt8.ofNat (high * 16 + low) :: (← percentBytes bound))
      else pure []

/-- Takes the part of a tag or of a tag directive that may be long, with its escapes decoded. -/
def uriTail : Nat → Scan Text
  | 0 => pure []
  | bound + 1 => do
      let run ← takeRun isUriChar
      if (← peek) = some '%' then
        match Utf8.decode? (← percentBytes (← get).bound) with
        | none => malformed
        | some decoded => pure (run ++ decoded ++ (← uriTail bound))
      else pure run

def uri : Scan Text := do
  let text ← uriTail (← get).bound
  if text = [] then malformed else pure text

/-- Takes the handle of a tag: one `!`, or a name between two. -/
def tagHandle : Scan Text := do
  if (← peek) ≠ some '!' then malformed
  else if (← peekAt 1) = some ' ' then
    step
    pure ['!']
  else
    let name := ((← get).rest.drop 1).takeWhile isNameChar
    let handle := '!' :: name ++ ['!']
    if (← peekAt (name.length + 1)) = some '!' then
      advance handle.length
      pure handle
    else
      advance (name.length + 1)
      malformed

/-- A tag as it is written: a handle, if it is not given in full, and the rest. -/
structure WrittenTag where
  handle : Option Text
  suffix : Text
deriving Repr, DecidableEq

/-- Takes a tag, which comes next with its `!`. -/
def writtenTag : Scan WrittenTag := do
  let tag ←
    match ← peekAt 1 with
    | some '<' =>
        advance 2
        let suffix ← uri
        if (← peek) ≠ some '>' then malformed
        step
        pure (WrittenTag.mk none suffix)
    | next =>
        if endsWord next then
          step
          pure (WrittenTag.mk none ['!'])
        else
          let word := ((← get).rest.drop 1).takeWhile fun c => !endsField (some c) && c ≠ '!'
          let handle ←
            if (← peekAt (word.length + 1)) = some '!' then tagHandle
            else
              step
              pure ['!']
          pure (WrittenTag.mk (some handle) (← uri))
  if endsField (← peek) then pure tag else malformed

/-- What a directive says of the documents after it. -/
inductive Directive where
  /-- The major number of the format's version. -/
  | version (major : Nat)
  | tag (handle uri : Text)
  | reserved
deriving Repr, DecidableEq

def versionNumber : Scan Nat := do
  let digits ← run Text.isAsciiDigit
  if digits = [] then malformed
  else if Text.digitLimit < digits.length then throw (.misused .badValue)
  else
    advance digits.length
    pure (Text.decimalValue digits)

/-- Takes a directive with the rest of its line; its `%` comes next. -/
def directive : Scan Directive := do
  step
  let name ← run isNameChar
  if name = [] then malformed
  advance name.length
  if !endsField (← peek) then malformed
  let found ←
    if name = "YAML" then
      skipSpaces
      let major ← versionNumber
      if (← peek) ≠ some '.' then malformed
      step
      let _ ← versionNumber
      if !endsField (← peek) then malformed
      pure (Directive.version major)
    else if name = "TAG" then
      skipSpaces
      let handle ← tagHandle
      if (← peek) ≠ some ' ' then malformed
      skipSpaces
      let full ← uri
      if !endsField (← peek) then malformed
      pure (Directive.tag handle full)
    else
      skipRun (!isBreak ·)
      pure Directive.reserved
  ignoredLine
  pure found

end KconfigReference.Yaml
