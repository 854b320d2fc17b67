import KconfigReference.Page.Document
import KconfigReference.Page.Markup
import KconfigReference.Walk.Run

/-!
The whole reference: a walk over a tree under given settings, and the document made of what it
wrote.
-/

namespace KconfigReference

/-- What came of making a reference, and what the walk said about itself. -/
structure Generated where
  result : Except Failure CodeText
  log : List LogRecord

namespace Reference

/-- Writes two streams of items. -/
def draft (s : WalkState) : Drafting Unit := do
  s.toc.toList.forM fun item => Document.writeToc item.text
  s.body.toList.forM fun item => Document.writeBody item.text

/-- Header, table of contents, body and trailer of what a walk wrote. -/
def page (settings : Settings) (today : Date) (s : WalkState) : Drafting CodeText := do
  let header ← MonadExcept.ofExcept ((Frame.header settings today).mapError Failure.misused)
  draft s
  Document.compose header Frame.trailer

/-- Makes the reference of the tree under a root directory. Creating the staging buffer may be
refused by the system, for a reason. -/
def generate (settings : Settings) (tree : FileTree) (root : Text) (today : Date)
    (refusal : Option Text) : Generated :=
  match Document.openStaging refusal (.fresh Document.defaultMaxSize) with
  | .error e _ => ⟨.error e, []⟩
  | .ok _ document =>
      match Walk.run (.ofSettings settings tree root) (some root) (.ofSettings settings) with
      | .error e s => ⟨.error e, s.log.toList⟩
      | .ok _ s =>
          match page settings today s document with
          | .error e _ => ⟨.error e, s.log.toList⟩
          | .ok text _ => ⟨.ok text, s.log.toList⟩

end Reference

end KconfigReference
