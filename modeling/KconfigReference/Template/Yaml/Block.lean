import KconfigReference.Template.Yaml.Input
import KconfigReference.Text.Digit

/-!
Block scalars: indented lines after `|`, which are kept, or after `>`, which are folded.
-/

namespace KconfigReference.Yaml

open Scan

/-- What the header of a block scalar settles. -/
structure BlockHeader where
  /-- Whether all line breaks at the end are kept (`+`) or none (`-`); one if unsettled. -/
  keep : Option Bool
  /-- How much further the lines are indented than what the scalar belongs to. -/
  increment : Option Nat

/-- Takes the setting for the line breaks at the end, if there is one. -/
def chomping : Scan (Option Bool) := do
  match ← peek with
  | some '+' =>
      step
      pure (some true)
  | some '-' =>
      step
      pure (some false)
  | _ => pure none

/-- Takes an increment, if there is one. -/
def increment : Scan (Option Nat) := do
  match ← peek with
  | some c =>
      if !Text.isAsciiDigit c then pure none
      else if c = '0' then malformed
      else
        step
        pure (some (c.toNat - '0'.toNat))
  | none => pure none

/-- Takes the header after its first mark: the two settings come in either order. -/
def blockHeader : Scan BlockHeader := do
  let header ←
    match ← chomping with
    | some keep => pure ⟨some keep, ← increment⟩
    | none =>
        match ← increment with
        | some width => pure ⟨← chomping, some width⟩
        | none => pure ⟨none, none⟩
  if endsField (← peek) then pure header else malformed

/-- Takes the empty lines before the first line of a scalar, and gives the greatest column that
their spaces and those before the first line reach. -/
def leadingLines : Nat → Nat → Scan (List Text × Nat)
  | 0, deepest => pure ([], deepest)
  | bound + 1, deepest => do
      skipSpaces
      let deepest := max deepest (← get).column
      if ← nextIs isBreak then
        let first ← lineBreak
        let (more, all) ← leadingLines bound deepest
        pure (first :: more, all)
      else pure ([], deepest)

/-- Skips at most as many spaces as lead to a column. -/
def skipIndent (indent : Nat) : Nat → Scan Unit
  | 0 => pure ()
  | bound + 1 => do
      if (← get).column < indent then
        if (← peek) = some ' ' then
          step
          skipIndent indent bound

/-- Takes the empty lines that come next, whose spaces do not reach beyond a column. -/
def emptyLines (indent : Nat) : Nat → Scan (List Text)
  | 0 => pure []
  | bound + 1 => do
      skipIndent indent indent
      if ← nextIs isBreak then
        let first ← lineBreak
        pure (first :: (← emptyLines indent bound))
      else pure []

/-- Whether a line of a block scalar comes next, given its column. -/
def atBlockLine (indent : Nat) : Scan Bool := do
  if (← get).column = indent then
    pure (← peek).isSome
  else pure false

/-- The lines of a block scalar, joined, with the last break and the empty lines after it apart. -/
structure BlockLines where
  text : Text
  lastBreak : Text
  trailing : List Text

/-- Takes the lines of a block scalar, the first of which comes next; `empty` are the empty lines
before it. -/
def blockLines (folded : Bool) (indent : Nat) : Nat → List Text → Scan BlockLines
  | 0, empty => pure ⟨[], [], empty⟩
  | bound + 1, empty => do
      let isFlush := !(← nextIs isSpace)
      let line ← takeRun (!isBreak ·)
      let lastBreak ← lineBreak
      let more ← emptyLines indent (← get).bound
      if ← atBlockLine indent then
        let isFolded := folded && lastBreak = ['\n'] && isFlush && !(← nextIs isSpace)
        let joint : Text :=
          if !isFolded then lastBreak else if more = [] then [' '] else []
        let tail ← blockLines folded indent bound more
        pure { tail with text := empty.flatten ++ line ++ joint ++ tail.text }
      else pure ⟨empty.flatten ++ line, lastBreak, more⟩

/-- Takes a block scalar, which comes next with its first mark. `least` is the column that its lines
have to reach. -/
def blockScalar (folded : Bool) (least : Nat) : Scan Text := do
  step
  let header ← blockHeader
  ignoredLine
  let bound := (← get).bound
  let (empty, indent) ←
    match header.increment with
    | some width =>
        let indent := least + width - 1
        pure (← emptyLines indent bound, indent)
    | none =>
        let (empty, deepest) ← leadingLines bound 0
        pure (empty, max least deepest)
  let lines ←
    if ← atBlockLine indent then blockLines folded indent bound empty
    else pure ⟨[], [], empty⟩
  let lastBreak := if header.keep = some false then [] else lines.lastBreak
  let trailing := if header.keep = some true then lines.trailing.flatten else []
  pure (lines.text ++ lastBreak ++ trailing)

end KconfigReference.Yaml
