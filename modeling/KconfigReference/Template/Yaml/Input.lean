import KconfigReference.Failure
import KconfigReference.Text.Intake

/-!
Texts in YAML while they are read: where the reader stands, how far it looks ahead, and the classes
of characters that the format tells apart. Line endings have been normalised before.

A fault in the file or a character that may not occur counts only when the reader gets there. The
text comes in groups of pieces, and looking beyond the last sound group is what meets the fault.
-/

namespace KconfigReference.Yaml

inductive Fault where
  /-- The text does not follow the format, or a node has no value. -/
  | malformed
  /-- A value that its notation allows and its type does not. -/
  | misused (m : Misuse)
deriving Repr, DecidableEq

/-- The characters that may occur. -/
def isPermitted (c : Char) : Bool :=
  c = '\t' || c = '\n' || c = '\r' || (' ' ≤ c && c ≤ '~') || c = '\x85' ||
    ('\xa0' ≤ c && c.toNat ≤ 0xFFFD) || 0x10000 ≤ c.toNat

def isBreak (c : Char) : Bool := c = '\n' || c = '\x85' || c = '\u2028' || c = '\u2029'

/-- The text without a line feed that it ends with. -/
def withoutFinalBreak (t : Text) : Text := if t.getLast? = some '\n' then t.dropLast else t

/-- The white space inside a line. -/
def isSpace (c : Char) : Bool := c = ' ' || c = '\t'

/-- Letters, digits, hyphens and underscores. -/
def isNameChar (c : Char) : Bool := c.isAlphanum || c = '-' || c = '_'

/-- Whether what comes next, if anything does, is white space or a line break. -/
def endsWord : Option Char → Bool
  | none => true
  | some c => isSpace c || isBreak c

/-- As `endsWord`, with tabs excepted. -/
def endsField : Option Char → Bool
  | none => true
  | some c => c = ' ' || isBreak c

def endsLine : Option Char → Bool
  | none => true
  | some c => isBreak c

/-- What is left to read, and where it begins. -/
structure Input where
  rest : Text
  /-- The number of characters of the text as a whole. -/
  size : Nat
  index : Nat
  line : Nat
  column : Nat
  /-- What is wrong behind the rest of the text; nothing if that is where the text ends. -/
  beyond : Option Fault

namespace Input

/-- The beginning of a text; a byte order mark there is skipped and has no width. -/
def ofText (text : Text) (beyond : Option Fault) : Input :=
  match text with
  | '\uFEFF' :: rest => ⟨rest, text.length, 1, 0, 0, beyond⟩
  | text => ⟨text, text.length, 0, 0, 0, beyond⟩

/-- The groups in which the text comes: the first two pieces together, then one at a time. -/
def groups : List Text → List Text
  | first :: second :: more => (first ++ second) :: more
  | few => few

/-- The beginning of a file, which has to have a sound group of pieces. -/
def ofBytes (bytes : Bytes) : Except Fault Input :=
  let (pieces, faulty) := Text.pieceWise bytes
  if faulty && pieces.length < 2 then .error (.misused .badEncoding)
  else
    let all := groups pieces
    let sound := all.takeWhile fun group => group.all isPermitted
    let beyond : Option Fault :=
      if sound.length < all.length then some .malformed
      else if faulty then some (.misused .badEncoding)
      else none
    match beyond, sound with
    | some fault, [] => .error fault
    | beyond, sound => .ok (ofText sound.flatten beyond)

def step (input : Input) : Input :=
  match input.rest with
  | [] => input
  | c :: rest =>
      if isBreak c then
        { input with rest, index := input.index + 1, line := input.line + 1, column := 0 }
      else
        { input with
          rest
          index := input.index + 1
          column := if c = '\uFEFF' then input.column else input.column + 1 }

def advance (input : Input) : Nat → Input
  | 0 => input
  | n + 1 => input.step.advance n

/-- A bound on the steps of a reader that takes at least a character in each but the last. -/
def bound (input : Input) : Nat := input.size - input.index + 1

end Input

/-- A reader of a part of a text. -/
abbrev Scan := StateT Input (Except Fault)

namespace Scan

def malformed : Scan α := throw .malformed

/-- Looks at the next characters, which meets the fault behind the text if there are not as many. -/
def lookAhead (count : Nat) : Scan Text := do
  let input ← get
  let ahead := input.rest.take count
  match input.beyond with
  | some fault => if ahead.length < count then throw fault else pure ahead
  | none => pure ahead

/-- The next character, if there is one. -/
def peek : Scan (Option Char) := do
  let ahead ← lookAhead 1
  pure ahead.head?

/-- The character after `offset` others, if there is one. -/
def peekAt (offset : Nat) : Scan (Option Char) := do
  let ahead ← lookAhead (offset + 1)
  pure ahead[offset]?

/-- Goes on behind some characters, the last of which has to be followed by another or by the end of
the text. -/
def advance (count : Nat) : Scan Unit := do
  let _ ← lookAhead (count + 1)
  modify (·.advance count)

def step : Scan Unit := advance 1

/-- The longest run of characters that satisfy `p`, which is known by what comes after it. -/
def run (p : Char → Bool) : Scan Text := do
  let run := (← get).rest.takeWhile p
  let _ ← lookAhead (run.length + 1)
  pure run

/-- Takes the longest run of characters that satisfy `p`. -/
def takeRun (p : Char → Bool) : Scan Text := do
  let run ← run p
  advance run.length
  pure run

def skipRun (p : Char → Bool) : Scan Unit := do
  let _ ← takeRun p

def skipSpaces : Scan Unit := skipRun (· = ' ')

/-- Takes the line break that comes next, as it counts in a value, or nothing. -/
def lineBreak : Scan Text := do
  match ← peek with
  | some c =>
      if !isBreak c then pure []
      else
        step
        pure (if c = '\x85' then ['\n'] else [c])
  | none => pure []

def nextIs (p : Char → Bool) : Scan Bool := do
  pure ((← peek).any p)

/-- Whether a line comes next that opens or closes a document, which only three hyphens or three
periods do. -/
def atMark (marks : List Text) : Scan Bool := do
  if marks.contains (← lookAhead 3) then
    pure (endsWord (← peekAt 3))
  else pure false

def atDocumentMark : Scan Bool := atMark [['-', '-', '-'], ['.', '.', '.']]

/-- Skips the rest of a line, which has to hold nothing but white space and a comment. -/
def ignoredLine : Scan Unit := do
  skipSpaces
  if (← peek) = some '#' then skipRun (!isBreak ·)
  if endsLine (← peek) then
    let _ ← lineBreak
  else malformed

end Scan

/-- The breaks between two lines of a scalar as they count in its value: a single line feed is a
space, and of several the first is dropped. -/
def foldBreaks (first : Text) (more : List Text) : Text :=
  if first ≠ ['\n'] then first ++ more.flatten
  else if more = [] then [' ']
  else more.flatten

end KconfigReference.Yaml
