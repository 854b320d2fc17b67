import KconfigReference.Walk.Line
import KconfigReference.Walk.State

/-!
The walk through blocks and files, and a run over a whole tree. A block runs to the line that closes
it or to the end of its file; a block inside it is walked on the same cursor, and a source line
walks another file on a cursor of its own. The lines of a file that are left when its outermost
block is closed are not read.

A file that is opened again while it is open, at the same level and under the same number of
conditions, is opened again without end, because nothing else decides which lines are dispatched.
So no run that ends has more files open than there are files, levels and condition counts together.

Which lines are read does not depend on the state of a walk, so the source lines of a text name
every file that a walk can open from it.
-/

namespace KconfigReference

namespace Walk

/-- Walks the lines of a cursor up to the end of the current block, and gives the lines after it. -/
def block (ctx : WalkContext) (visit : Text → Walk Unit) (directory : Text) (cursor : Cursor) :
    Walk { rest : Cursor // rest.size ≤ cursor.size } := do
  match h : cursor.next with
  | (none, _) => pure ⟨cursor, Nat.le_refl _⟩
  | (some line, after) =>
      have hafter := Cursor.size_lt_of_next h
      let (turn, ⟨rest, hrest⟩) ← dispatch ctx visit directory line after
      have hback := Nat.le_trans hrest (Nat.le_of_lt hafter)
      match turn with
      | .onward =>
          let ⟨left, hleft⟩ ← block ctx visit directory rest
          pure ⟨left, Nat.le_trans hleft hback⟩
      | .inside =>
          let ⟨inner, hinner⟩ ← block ctx visit directory rest
          have hinside := Nat.le_trans hinner hback
          let ⟨left, hleft⟩ ← block ctx visit directory inner
          pure ⟨left, Nat.le_trans hleft hinside⟩
      | .done => pure ⟨rest, hback⟩
termination_by cursor.size
decreasing_by
  · exact Nat.lt_of_le_of_lt hrest hafter
  · exact Nat.lt_of_le_of_lt hrest hafter
  · exact Nat.lt_of_le_of_lt (Nat.le_trans hinner hrest) hafter

/-- Opens the Kconfig file of a directory and gives its lines. -/
def openFile (ctx : WalkContext) (directory : Text) : Walk (List Line) := do
  let path ← announce ctx directory
  if !ctx.layout.hasNameableFiles then throw (.misused .unencodable)
  let text ← lift (ctx.readText path)
  modify fun s => { s with opened := s.opened.push path }
  lift ((ctx.lineSize.lines path (Text.physicalLines text)).mapError .misused)

/-- Walks the Kconfig file of a directory. `depth` bounds how many files may be open at a time. -/
def file (ctx : WalkContext) : Nat → Text → Walk Unit
  | 0, _ => throw (.misused .endless)
  | depth + 1, directory => do
      let lines ← openFile ctx directory
      let rest ← block ctx (file ctx depth) directory (.ofLines lines)
      modify fun s => { s with unread := s.unread ++ rest.val.lines.toArray }

end Walk

/-- The greatest count that stays below a limit, or `fallback` where nothing reaches the limit. -/
def Limit.bound (limit : Limit) (fallback : Nat) : Nat :=
  match limit with
  | .count n => n.toNat
  | .real (.finite false mantissa exponent) => mantissa * twoTo exponent
  | .real (.infinite false) => fallback
  | .real .nan => fallback
  | _ => 0

namespace Walk

/-- How many more levels or conditions are counted where nothing limits them. -/
def unlimited : Nat := 1000

/-- The number of files that may be open at a time. -/
def depthBound (ctx : WalkContext) (s : WalkState) : Nat :=
  (ctx.tree.allFiles.length + 2) *
    (s.nesting.maxLevels.bound (s.nesting.level + unlimited) + 2) *
    (s.conditions.capacity.bound (s.conditions.height + unlimited) + 2)

/-- Walks the Kconfig file of a directory, and all that it sources. -/
def processFile (ctx : WalkContext) (directory : Text) : Walk Unit := do
  file ctx (depthBound ctx (← get)) directory

/-- Walks the lines of a cursor up to the end of the block, and gives the lines after it. -/
def processBlock (ctx : WalkContext) (directory : Text) (cursor : Cursor) : Walk (List Line) := do
  let rest ← block ctx (file ctx (depthBound ctx (← get))) directory cursor
  pure rest.val.lines

/-- Opens the root of the tree, which is numbered like a menu at the first level. -/
def openRoot (ctx : WalkContext) : Walk Unit := do
  nest (·.enter .nowhere)
  let anchor := (← get).nesting.menuAnchor
  nest (.ok ·.pastMenuAnchor)
  let banner ← lift (ctx.bannerText.mapError .misused)
  modify (·.announceRoot anchor banner)

/-- What is said at the end of a run: what was left open, and how many files were read. -/
def closingRemarks (s : WalkState) : List LogRecord :=
  (if s.nesting.level = 1 then []
   else [⟨.warning, "Unbalanced menu/choice blocks at end of input (level " ++
     Text.ofNat s.nesting.level ++ ")"⟩]) ++
  (if s.conditions.height = 0 then []
   else [⟨.warning, "Unbalanced if/endif at end of input (" ++
     Text.ofNat s.conditions.height ++ " open)"⟩]) ++
  [⟨.info, "Processed " ++ Text.ofNat s.opened.size ++ " Kconfig files"⟩]

/-- Ends the table of contents. -/
def closeRoot : Walk Unit := do
  modify (·.writeToc .closeList)
  modify fun s => { s with log := s.log ++ (closingRemarks s).toArray }

/-- The directory in which a run starts: the root of the layout, if none is given. -/
def startDirectory (ctx : WalkContext) (root : Option Text) : Text :=
  match root.getD [] with
  | [] => ctx.layout.root
  | directory => directory

/-- Walks a whole tree from a root directory. -/
def run (ctx : WalkContext) (root : Option Text) : Walk Unit := do
  openRoot ctx
  processFile ctx (startDirectory ctx root)
  closeRoot

end Walk

namespace WalkContext

/-- The path of the file that a line names as its source, if it names one. -/
def source? (ctx : WalkContext) (line : Line) : Option Text :=
  match line.keyword?, ctx.layout.resolve (Text.firstWord line.rest) with
  | some .source, .ok (some resolved) => (ctx.layout.filePath resolved.directory).toOption
  | _, _ => none

/-- The paths of the files that the text of a file may source. -/
def sources (ctx : WalkContext) (path text : Text) : List Text :=
  match ctx.lineSize.lines path (Text.physicalLines text) with
  | .ok lines => lines.filterMap ctx.source?
  | .error _ => []

end WalkContext

end KconfigReference
