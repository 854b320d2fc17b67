import KconfigReference.Template.Yaml.Block
import KconfigReference.Template.Yaml.Plain
import KconfigReference.Template.Yaml.Property
import KconfigReference.Template.Yaml.Quoted

/-!
Tokens of YAML. Indentation opens and closes block collections, and a key of one line is known only
by the colon after it: its marks are put before it when the colon comes. So tokens are read ahead
just as far as it takes to know whether the next one begins such a key.
-/

namespace KconfigReference.Yaml

inductive Token where
  | directive (d : Directive)
  | documentStart
  | documentEnd
  | streamEnd
  | blockSequenceStart
  | blockMappingStart
  | blockEnd
  | flowSequenceStart
  | flowSequenceEnd
  | flowMappingStart
  | flowMappingEnd
  | blockEntry
  | flowEntry
  | key
  | value
  | alias (name : Text)
  | anchor (name : Text)
  | tag (written : WrittenTag)
  | scalar (text : CodeText) (isPlain : Bool)
deriving Repr, DecidableEq

/-- A place where a key may begin that is not marked as one. -/
structure Candidate where
  /-- The number of tokens before it. -/
  number : Nat
  /-- Whether nothing else may begin there. -/
  required : Bool
  index : Nat
  line : Nat
  column : Nat

/-- How far a text has been read. -/
structure Reading where
  input : Input
  /-- The tokens that have been read and not taken, the next one first. -/
  queue : List Token
  /-- The number of tokens that have been taken. -/
  taken : Nat
  /-- Whether the end of the stream has been read. -/
  finished : Bool
  /-- The columns of the open block collections, innermost first. -/
  columns : List Nat
  /-- The candidate among what is directly inside the innermost flow collection. -/
  candidate : Option Candidate
  /-- The candidates outside of the open flow collections, innermost first. -/
  outer : List (Option Candidate)
  /-- Whether a key may begin at the next token. -/
  keyAllowed : Bool

namespace Reading

def ofInput (input : Input) : Reading := ⟨input, [], 0, false, [], none, [], true⟩

def inFlow (r : Reading) : Bool := !r.outer.isEmpty

/-- The column that the content of the innermost block collection has to reach. -/
def indent (r : Reading) : Nat := (r.columns.head?.map (· + 1)).getD 0

def emit (r : Reading) (token : Token) : Reading := { r with queue := r.queue ++ [token] }

/-- The number of tokens that have been read. -/
def count (r : Reading) : Nat := r.taken + r.queue.length

/-- Closes the block collections for which `p` holds of the column, from the innermost on. -/
def closeWhile (p : Nat → Bool) (r : Reading) : Reading :=
  let closed := (r.columns.takeWhile p).length
  { r with
    queue := r.queue ++ List.replicate closed .blockEnd
    columns := r.columns.drop closed }

/-- Closes the block collections that are indented further than a column. -/
def closeTo (column : Nat) (r : Reading) : Reading :=
  if r.inFlow then r else r.closeWhile (column < ·)

def closeAll (r : Reading) : Reading := if r.inFlow then r else r.closeWhile fun _ => true

/-- Whether a block collection at a column would be a new one. -/
def opensAt (r : Reading) (column : Nat) : Bool := r.indent ≤ column

/-- Opens a block collection at the input, if there is none at its column. -/
def openBlock (token : Token) (r : Reading) : Reading :=
  let column := r.input.column
  if !r.inFlow && r.opensAt column then
    { (r.emit token) with columns := column :: r.columns }
  else r

/-- The number of tokens before the earliest candidate. -/
def earliest (r : Reading) : Option Nat :=
  ((r.candidate :: r.outer).filterMap (·.map Candidate.number)).min?

end Reading

/-- A reader of tokens. -/
abbrev Lex := StateT Reading (Except Fault)

namespace Lex

def malformed : Lex α := throw .malformed

/-- Reads a part of the text. -/
def scan (part : Scan α) : Lex α := fun r =>
  (part r.input).map fun (a, input) => (a, { r with input := input })

def emit (token : Token) : Lex Unit := modify (·.emit token)

def setKeyAllowed (allowed : Bool) : Lex Unit := modify fun r => { r with keyAllowed := allowed }

/-- Skips white space, comments and line breaks; outside of flow collections a key may begin after
a line break. -/
def skipBlank : Nat → Lex Unit
  | 0 => pure ()
  | bound + 1 => do
      let found ← scan do
        Scan.skipSpaces
        if (← Scan.peek) = some '#' then Scan.skipRun (!isBreak ·)
        Scan.lineBreak
      if found ≠ [] then
        modify fun r => { r with keyAllowed := r.keyAllowed || !r.inFlow }
        skipBlank bound

/-- A candidate holds good in its line for 1024 characters. -/
def keep (input : Input) (candidate : Option Candidate) : Except Fault (Option Candidate) :=
  match candidate with
  | none => .ok none
  | some c =>
      if c.line = input.line && input.index ≤ c.index + 1024 then .ok (some c)
      else if c.required then .error .malformed
      else .ok none

def dropStale : Lex Unit := do
  let r ← get
  let candidate ← keep r.input r.candidate
  let outer ← (r.outer.mapM (keep r.input) : Except Fault _)
  set { r with candidate := candidate, outer := outer }

/-- Gives up the innermost candidate. -/
def dropCandidate : Lex Unit := do
  if (← get).candidate.any (·.required) then malformed
  modify fun r => { r with candidate := none }

/-- Notes that a key may begin with the next token, if keys are allowed here. -/
def noteCandidate : Lex Unit := do
  let r ← get
  if r.keyAllowed then
    dropCandidate
    let required := !r.inFlow && r.columns.head? = some r.input.column
    modify fun r => { r with
      candidate := some ⟨r.count, required, r.input.index, r.input.line, r.input.column⟩ }

/-- Takes a mark of some characters and emits its token. -/
def mark (token : Token) (width : Nat) : Lex Unit := do
  scan (Scan.advance width)
  emit token

def endStream : Lex Unit := do
  modify (·.closeAll)
  dropCandidate
  emit .streamEnd
  modify fun r => { r with finished := true }

def readDirective : Lex Unit := do
  modify (·.closeAll)
  dropCandidate
  setKeyAllowed false
  emit (.directive (← scan directive))

def documentMark (token : Token) : Lex Unit := do
  modify (·.closeAll)
  dropCandidate
  setKeyAllowed false
  mark token 3

def openFlow (token : Token) : Lex Unit := do
  noteCandidate
  modify fun r => { r with candidate := none, outer := r.candidate :: r.outer, keyAllowed := true }
  mark token 1

def closeFlow (token : Token) : Lex Unit := do
  dropCandidate
  modify fun r => { r with
    candidate := r.outer.head?.join
    outer := r.outer.drop 1
    keyAllowed := false }
  mark token 1

def flowEntry : Lex Unit := do
  setKeyAllowed true
  dropCandidate
  mark .flowEntry 1

/-- Outside of flow collections, a mark that begins a line's content has to be where keys may
begin. -/
def requireKeyAllowed : Lex Unit := do
  let r ← get
  if !r.inFlow && !r.keyAllowed then malformed

def blockEntry : Lex Unit := do
  requireKeyAllowed
  modify (·.openBlock .blockSequenceStart)
  setKeyAllowed true
  dropCandidate
  mark .blockEntry 1

def markedKey : Lex Unit := do
  requireKeyAllowed
  modify (·.openBlock .blockMappingStart)
  modify fun r => { r with keyAllowed := !r.inFlow }
  dropCandidate
  mark .key 1

/-- Puts the marks of a key before a candidate. -/
def acceptCandidate (c : Candidate) : Lex Unit :=
  modify fun r =>
    let since := c.number - r.taken
    let opens := !r.inFlow && r.opensAt c.column
    let marks : List Token := if opens then [.blockMappingStart, .key] else [.key]
    { r with
      queue := r.queue.take since ++ marks ++ r.queue.drop since
      columns := if opens then c.column :: r.columns else r.columns
      candidate := none
      keyAllowed := false }

/-- A colon: the candidate, if there is one, was a key. -/
def value : Lex Unit := do
  match (← get).candidate with
  | some c => acceptCandidate c
  | none =>
      requireKeyAllowed
      modify (·.openBlock .blockMappingStart)
      modify fun r => { r with keyAllowed := !r.inFlow }
  mark .value 1

/-- Emits the token of a node's content or property that a reader finds. -/
def nodePart (part : Scan Token) : Lex Unit := do
  noteCandidate
  setKeyAllowed false
  emit (← scan part)

def plain : Lex Unit := do
  noteCandidate
  let r ← get
  let (text, broken) ← scan (plainScalar r.inFlow r.indent)
  setKeyAllowed broken
  emit (.scalar text true)

def block (folded : Bool) : Lex Unit := do
  setKeyAllowed true
  dropCandidate
  let text ← scan (blockScalar folded (max (← get).indent 1))
  emit (.scalar text false)

/-- Whether white space or the end follows the next character. -/
def endsMark : Lex Bool := do
  pure (endsWord (← scan (Scan.peekAt 1)))

/-- Whether the next character is a mark by itself in flow collections, and before white space
elsewhere. -/
def isMark : Lex Bool := do
  if (← get).inFlow then pure true else endsMark

/-- Whether a line begins here that only holds three times a character. -/
def atMark (c : Char) : Lex Bool := do
  if (← get).input.column = 0 then scan (Scan.atMark [[c, c, c]]) else pure false

/-- Reads a token that begins with no indicator of a collection. -/
def readContent (c : Char) : Lex Unit := do
  if c = '*' then nodePart (.alias <$> anchorName)
  else if c = '&' then nodePart (.anchor <$> anchorName)
  else if c = '!' then nodePart (.tag <$> writtenTag)
  else if (c = '|' || c = '>') && !(← get).inFlow then block (c = '>')
  else if c = '\'' || c = '"' then nodePart ((Token.scalar · false) <$> quotedScalar)
  else if ← scan (startsPlain (← get).inFlow c) then plain
  else malformed

/-- Reads a token that is an indicator of a collection, if one comes next. -/
def readIndicator (c : Char) : Lex Bool := do
  let found (read : Lex Unit) : Lex Bool := do
    read
    pure true
  match c with
  | '[' => found (openFlow .flowSequenceStart)
  | '\x7b' => found (openFlow .flowMappingStart)
  | ']' => found (closeFlow .flowSequenceEnd)
  | '\x7d' => found (closeFlow .flowMappingEnd)
  | ',' => found flowEntry
  | '-' => if ← endsMark then found blockEntry else pure false
  | '?' => if ← isMark then found markedKey else pure false
  | ':' => if ← isMark then found value else pure false
  | _ => pure false

/-- Reads a line that belongs to no document, if one comes next. -/
def readDocumentLine (c : Char) : Lex Bool := do
  if c = '%' && (← get).input.column = 0 then
    readDirective
    pure true
  else if c = '-' then
    if ← atMark '-' then
      documentMark .documentStart
      pure true
    else pure false
  else if c = '.' then
    if ← atMark '.' then
      documentMark .documentEnd
      pure true
    else pure false
  else pure false

/-- Reads one more token, with the marks that come before it. -/
def next : Lex Unit := do
  skipBlank (← get).input.bound
  dropStale
  modify fun r => r.closeTo r.input.column
  match ← scan Scan.peek with
  | none => endStream
  | some c =>
      if ← readDocumentLine c then pure ()
      else if ← readIndicator c then pure ()
      else readContent c

/-- Whether the next token is not known yet: there is none, or it may still turn out to be a key. -/
def isOpen : Lex Bool := do
  if (← get).finished then pure false
  else if (← get).queue.isEmpty then pure true
  else
    dropStale
    let r ← get
    pure (r.earliest = some r.taken)

/-- Reads tokens until the next one is known. The first argument bounds the tokens still to be
read. -/
def settle : Nat → Lex Unit
  | 0 => malformed
  | bound + 1 => do
      if ← isOpen then
        next
        settle bound

/-- The next token, which stays where it is. -/
def peek : Lex Token := do
  settle ((← get).input.bound + 1)
  match (← get).queue with
  | [] => malformed
  | token :: _ => pure token

/-- Takes the next token, which has been looked at. -/
def skip : Lex Unit :=
  modify fun r => { r with queue := r.queue.drop 1, taken := r.taken + 1 }

end Lex

end KconfigReference.Yaml
