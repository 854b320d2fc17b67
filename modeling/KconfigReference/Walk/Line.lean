import KconfigReference.Walk.State

/-!
What the lines of a tree do to the state of a walk: blocks open and close, conditions come into
force and end, and entries are rendered. Opening writes before the level is checked, and closing
before it is left.
-/

namespace KconfigReference.Walk

def openMenu (line : Line) : Walk Unit := do
  modify (·.announceMenu (Prompt.extract line.rest))
  nest (·.enter line.place)

def closeMenu (line : Line) : Walk Unit := do
  modify (·.writeToc .closeList)
  nest (·.leave line.place)
  nest (·.advance line.place)

def openChoice (line : Line) : Walk Unit := do
  modify (·.announceChoice (Prompt.extract line.rest))
  nest (·.enter line.place)
  modify (·.enterChoice)

def closeChoice (line : Line) : Walk Unit := do
  modify (·.writeBody .closeList)
  modify (·.leaveChoice)
  nest (·.leave line.place)
  nest (·.advance line.place)

def pushCondition (line : Line) : Walk Unit := do
  let conditions ← lift ((← get).conditions.push line.rest line.place)
  modify fun s => { s with conditions := conditions }

def popCondition (line : Line) : Walk Unit := do
  let popped ← lift ((← get).conditions.pop line.place)
  modify fun s => { s with conditions := popped.2 }

/-- Writes an entry to the body and, outside a choice, to the table of contents. Hidden entries are
passed over unless they are asked for. -/
def renderEntry (ctx : WalkContext) (entry : Entry) : Walk Unit := do
  let s ← get
  if entry.isHidden && !s.showInternal then
    debug ("Skipping internal variable " ++ entry.name)
  else
    if s.nesting.inChoice = 0 then
      modify (·.writeToc (.config entry s.number))
      nest (·.advance .nowhere)
      modify (·.writeBody (.config entry (some s.number)))
    else
      modify (·.writeBody (.config entry none))
    let path ← lift ((ctx.layout.filePath entry.directory).mapError .misused)
    modify (·.writeBody (.details entry path))

def unhandled (line : Line) : LogRecord := .debug ("Unhandled token: " ++ line.word)

/-- The path and the number of a line before a remark on it. -/
def remark (line : Line) (text : Text) : Text :=
  line.path ++ ":" ++ Text.ofNat line.number ++ ": " ++ text

/-- Takes the attribute lines of an entry from the cursor and renders the entry. -/
def configLine (ctx : WalkContext) (directory : Text) (line : Line) (cursor : Cursor) :
    Walk { rest : Cursor // rest.size ≤ cursor.size } := do
  match Text.firstWord line.rest with
  | [] =>
      debug (remark line "config without a name skipped")
      pure ⟨cursor, Nat.le_refl _⟩
  | name =>
      let entry := Entry.bare name directory (← get).conditions.inForce
      let collected := entry.collect cursor
      if let some ended := collected.ended then note (unhandled ended)
      renderEntry ctx collected.entry
      pure ⟨collected.cursor, Entry.size_collect_le entry cursor⟩

/-- The path of the Kconfig file of a directory, which is about to be opened. -/
def announce (ctx : WalkContext) (directory : Text) : Walk Text := do
  let path ← lift ((ctx.layout.filePath directory).mapError .misused)
  debug ("Processing " ++ path ++ " (level " ++ Text.ofNat (← get).nesting.level ++ ")")
  pure path

/-- Hands the directory that a source line names to `visit`. -/
def sourceLine (ctx : WalkContext) (visit : Text → Walk Unit) (line : Line) : Walk Unit := do
  match ← lift ((ctx.layout.resolve (Text.firstWord line.rest)).mapError Failure.misused) with
  | none => debug (remark line "empty source directive skipped")
  | some resolved =>
      debug resolved.remark
      if resolved.isNameable then visit resolved.directory
      else
        let _ ← announce ctx resolved.directory
        throw (.misused .unencodable)

/-- What a line does to the block structure: nothing, it opens a block, or it ends the current
one. -/
inductive Turn where
  | onward
  | inside
  | done
deriving Repr, DecidableEq

/-- Does what a line asks for, and says how the walk goes on from which lines. -/
def dispatch (ctx : WalkContext) (visit : Text → Walk Unit) (directory : Text) (line : Line)
    (cursor : Cursor) : Walk (Turn × { rest : Cursor // rest.size ≤ cursor.size }) := do
  let here : { rest : Cursor // rest.size ≤ cursor.size } := ⟨cursor, Nat.le_refl _⟩
  match line.keyword? with
  | some .source =>
      sourceLine ctx visit line
      pure (.onward, here)
  | some .config =>
      let rest ← configLine ctx directory line cursor
      pure (.onward, rest)
  | some .menu =>
      openMenu line
      debug ("Recursing for menu in " ++ directory ++ " (level " ++
        Text.ofNat (← get).nesting.level ++ ")")
      pure (.inside, here)
  | some .choice =>
      openChoice line
      debug ("Recursing for choice in " ++ directory ++ " (level " ++
        Text.ofNat (← get).nesting.level ++ ")")
      pure (.inside, here)
  | some .endMenu =>
      closeMenu line
      pure (.done, here)
  | some .endChoice =>
      closeChoice line
      pure (.done, here)
  | some .ifWord =>
      pushCondition line
      pure (.onward, here)
  | some .endIf =>
      popCondition line
      pure (.onward, here)
  | _ =>
      note (unhandled line)
      pure (.onward, here)

end KconfigReference.Walk
