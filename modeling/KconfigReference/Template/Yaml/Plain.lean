import KconfigReference.Template.Yaml.Input

/-!
Plain scalars: words without quotation marks. They end where an indicator begins, and outside of
brackets also at a line that is not indented further than what they belong to.
-/

namespace KconfigReference.Yaml

open Scan

/-- Brackets, braces and commas: the indicators of flow collections. -/
def isFlowIndicator (c : Char) : Bool :=
  c = ',' || c = '[' || c = ']' || c = '\x7b' || c = '\x7d'

/-- Whether a plain scalar may not begin with a character, or only before a certain one. -/
def isIndicator (c : Char) : Bool :=
  isFlowIndicator c || isSpace c || isBreak c ||
    ['-', '?', ':', '#', '&', '*', '!', '|', '>', '\'', '"', '%', '@', '\x60'].contains c

/-- Whether a plain scalar comes next, which begins with `c`. -/
def startsPlain (inFlow : Bool) (c : Char) : Scan Bool := do
  if !isIndicator c then pure true
  else if endsWord (← peekAt 1) then pure false
  else pure (c = '-' || (!inFlow && (c = '?' || c = ':')))

/-- The part of a plain scalar up to the next white space, indicator or end. -/
def plainPart (inFlow : Bool) : Text → Text
  | [] => []
  | c :: rest =>
      let next := rest.head?
      let endsKey := c = ':' && (endsWord next || (inFlow && next.any isFlowIndicator))
      if endsWord (some c) || endsKey || (inFlow && (c = '?' || isFlowIndicator c)) then []
      else c :: plainPart inFlow rest

/-- Takes the part of a plain scalar that comes next. It is known to end by the character after it,
and at a colon by one more. -/
def plainWord (inFlow : Bool) : Scan Text := do
  let word := plainPart inFlow (← get).rest
  if (← peekAt word.length) = some ':' then
    let _ ← peekAt (word.length + 1)
  if word ≠ [] then advance word.length
  pure word

/-- What stands between two words of a plain scalar. -/
structure PlainGap where
  /-- Its value; nothing if the scalar ends with the word before. -/
  text : Text
  /-- Whether there is a line break in it. -/
  broken : Bool

/-- Takes the breaks and spaces after a line break; none if a document is opened or closed there. -/
def plainBreaks : Nat → Scan (Option (List Text))
  | 0 => pure (some [])
  | bound + 1 => do
      if ← atDocumentMark then pure none
      else
        skipSpaces
        if ← nextIs isBreak then
          let first ← lineBreak
          pure ((← plainBreaks bound).map (first :: ·))
        else pure (some [])

def plainGap : Scan PlainGap := do
  let spaces ← takeRun (· = ' ')
  if ← nextIs isBreak then
    let first ← lineBreak
    match ← plainBreaks (← get).bound with
    | none => pure ⟨[], true⟩
    | some more => pure ⟨foldBreaks first more, true⟩
  else pure ⟨spaces, false⟩

/-- Takes the words of a plain scalar. `broken` tells whether a line break comes before, and the
result whether one comes after. -/
def plainWords (inFlow : Bool) (indent : Nat) : Nat → Bool → Scan (Text × Bool)
  | 0, broken => pure ([], broken)
  | bound + 1, broken => do
      if (← peek) = some '#' then pure ([], broken)
      else
        let word ← plainWord inFlow
        if word = [] then pure ([], broken)
        else
          let gap ← plainGap
          if gap.text = [] || (← peek) = some '#' || (!inFlow && (← get).column < indent) then
            pure (word, gap.broken)
          else
            let (more, brokenAfter) ← plainWords inFlow indent bound gap.broken
            pure (word ++ (if more = [] then [] else gap.text) ++ more, brokenAfter)

/-- Takes a plain scalar with the white space after it: its value, and whether there is a line break
in that white space. -/
def plainScalar (inFlow : Bool) (indent : Nat) : Scan (Text × Bool) := do
  plainWords inFlow indent (← get).bound false

end KconfigReference.Yaml
