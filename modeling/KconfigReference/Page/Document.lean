import KconfigReference.Failure
import KconfigReference.Page.Staging
import KconfigReference.Text.CodePoint

/-!
A document in two streams. The table of contents is kept as it is written. The body goes to a
staging buffer, which has to be open, and comes back from it with its line endings made line feeds.
-/

namespace KconfigReference

structure Document where
  /-- How many bytes a staging buffer keeps in memory. -/
  maxSize : Int
  /-- What was written to the table of contents, last first. -/
  toc : List CodeText
  /-- The staging buffer; none while it is closed. -/
  staging : Option Staging
deriving Repr, DecidableEq

/-- Work on a document: it changes the document, also when it fails. -/
abbrev Drafting := EStateM Failure Document

namespace Document

def defaultMaxSize : Int := 4 * 1024 * 1024

def fresh (maxSize : Int) : Document := ⟨maxSize, [], none⟩

def stagingClosed : Diagnostic := .unplaced .staging "staging buffer is not open"

/-- Opens a new staging buffer, unless the system refuses it for a reason. What the buffer before
it holds is dropped. -/
def openStaging (refusal : Option Text) : Drafting Unit :=
  match refusal with
  | some reason =>
      throw (.reported (.unplaced .staging ("create staging buffer failed: " ++ reason)))
  | none => modify fun d => { d with staging := some (.empty d.maxSize) }

def close : Drafting Unit := modify fun d => { d with staging := none }

def setStaging (s : Staging) : Drafting Unit := modify fun d => { d with staging := some s }

/-- The staging buffer, if it is open. -/
def openedStaging : Drafting Staging := do
  match (← get).staging with
  | none => throw (.reported stagingClosed)
  | some s => pure s

def writeToc (text : CodeText) : Drafting Unit :=
  modify fun d => { d with toc := text :: d.toc }

/-- Writes to the staging buffer, which takes characters only. -/
def writeBody (text : CodeText) : Drafting Unit := do
  let s ← openedStaging
  match text.plain? with
  | none => throw (.misused .unencodable)
  | some text => setStaging (s.write text)

def tocText : Drafting CodeText := do
  let d ← get
  pure d.toc.reverse.flatten

/-- The text of the whole staging buffer, which is left at its end. -/
def bodyText : Drafting CodeText := do
  let s ← openedStaging
  let (text?, s) := s.rewind.read
  match text? with
  | none =>
      setStaging s
      throw (.misused .badEncoding)
  | some text =>
      setStaging s.seekEnd
      pure text

/-- Header, table of contents, body and trailer. -/
def compose (header trailer : CodeText) : Drafting CodeText := do
  let toc ← tocText
  let body ← bodyText
  pure (header ++ toc ++ body ++ trailer)

/-- What can be asked of a document. -/
inductive Operation where
  | openStaging (refusal : Option Text)
  | close
  | writeToc (text : CodeText)
  | writeBody (text : CodeText)
  | tocText
  | bodyText
  | compose (header trailer : CodeText)
deriving Repr, DecidableEq

/-- Does what is asked; only the operations that read answer with a text. -/
def Operation.perform : Operation → Drafting (Option CodeText)
  | .openStaging refusal => do
      Document.openStaging refusal
      pure none
  | .close => do
      Document.close
      pure none
  | .writeToc text => do
      Document.writeToc text
      pure none
  | .writeBody text => do
      Document.writeBody text
      pure none
  | .tocText => do
      let text ← Document.tocText
      pure (some text)
  | .bodyText => do
      let text ← Document.bodyText
      pure (some text)
  | .compose header trailer => do
      let text ← Document.compose header trailer
      pure (some text)

end Document

end KconfigReference
