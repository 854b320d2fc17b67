import KconfigReference.Files.Tree
import KconfigReference.Kconfig.Nesting
import KconfigReference.Kconfig.Source
import KconfigReference.Page.Item
import KconfigReference.Setting.Basic
import KconfigReference.Text.Basic

/-!
The state of a walk over a Kconfig tree with the records of its log, and what a single line or entry
does to it. A step that fails keeps whatever it had done before.
-/

namespace KconfigReference

inductive LogLevel where
  | debug
  | info
  | warning
  | error
deriving Repr, DecidableEq

namespace LogLevel

def name : LogLevel → Text
  | .debug => "DEBUG"
  | .info => "INFO"
  | .warning => "WARNING"
  | .error => "ERROR"

/-- The place of a level among all levels, the least severe first. -/
def rank : LogLevel → Nat
  | .debug => 0
  | .info => 1
  | .warning => 2
  | .error => 3

end LogLevel

structure LogRecord where
  level : LogLevel
  message : Text
deriving Repr, DecidableEq

namespace LogRecord

def debug (message : Text) : LogRecord := ⟨.debug, message⟩

/-- The record as a line. -/
def line (r : LogRecord) : Text := r.level.name ++ ": " ++ r.message ++ "\n"

end LogRecord

/-- The lines of the records at or above a level. -/
def logText (least : LogLevel) (records : List LogRecord) : Text :=
  (records.filter fun r => least.rank ≤ r.level.rank).flatMap LogRecord.line

/-- What a walk does not change: the files, how they are named, how their lines are cut, and the
banner of the page. -/
structure WalkContext where
  tree : FileTree
  layout : Layout
  lineSize : LineSize
  banner : Setting

structure WalkState where
  nesting : Nesting
  conditions : Conditions
  /-- Whether entries without a description are shown. -/
  showInternal : Bool
  toc : Array TocItem
  body : Array BodyItem
  /-- The paths of the files opened so far. -/
  opened : Array Text
  /-- The lines that were left in files whose outermost block ended before them. -/
  unread : Array Line
  log : Array LogRecord

/-- A walk: it changes the state, also when it fails. -/
abbrev Walk := EStateM Failure WalkState

namespace WalkContext

def ofSettings (settings : Settings) (tree : FileTree) (root : Text) : WalkContext where
  tree := tree
  layout :=
    { root := root
      appsDirectory := settings.get "apps_dir"
      appsToken := settings.get "apps_token"
      fileName := settings.get "kconfig_name" }
  lineSize := .ofSetting (settings.get "line_size")
  banner := settings.get "banner"

/-- The text of a Kconfig file; bytes that are no text are replaced. -/
def readText (ctx : WalkContext) (path : Text) : Except Failure Text :=
  if path.contains '\x00' then .error (.misused .badValue)
  else
    match ctx.tree.read path with
    | .error e => .error (.reported (.inFile .kconfigOpen ("open failed: " ++ e.reason) path))
    | .ok bytes => .ok (Text.normalizeLineEndings (Utf8.decodeLenient bytes))

/-- The banner as it stands in the links and headings, which hold plain text only. -/
def bannerText (ctx : WalkContext) : Except Misuse Text := do
  match (← ctx.banner.shown).plain? with
  | some banner => pure banner
  | none => .error .unencodable

end WalkContext

namespace WalkState

/-- The state before anything is walked. -/
def fresh (maxLevels maxConditions : Limit) (showInternal : Bool) : WalkState where
  nesting := .fresh maxLevels
  conditions := .fresh maxConditions
  showInternal := showInternal
  toc := #[]
  body := #[]
  opened := #[]
  unread := #[]
  log := #[]

def ofSettings (settings : Settings) : WalkState :=
  fresh (.ofSetting (settings.get "max_levels")) (.ofSetting (settings.get "max_dependencies"))
    (settings.get "show_internal").isTrue

/-- The number of the paragraph that comes next. -/
def number (s : WalkState) : ParagraphNumber := s.nesting.counters.reverse

def writeToc (s : WalkState) (item : TocItem) : WalkState := { s with toc := s.toc.push item }

def writeBody (s : WalkState) (item : BodyItem) : WalkState := { s with body := s.body.push item }

def note (s : WalkState) (record : LogRecord) : WalkState := { s with log := s.log.push record }

def tocText (s : WalkState) : Text := s.toc.toList.flatMap TocItem.text

def bodyText (s : WalkState) : Text := s.body.toList.flatMap BodyItem.text

/-- Writes link and heading of the root of the tree, for which a menu anchor is taken. -/
def announceRoot (s : WalkState) (anchor banner : Text) : WalkState :=
  { s with
    toc := s.toc.push (.block anchor s.number banner)
    body := s.body.push (.menu anchor s.number banner) }

/-- Writes link and heading of a menu and opens its list of links. -/
def announceMenu (s : WalkState) (title : Option Text) : WalkState :=
  let anchor := s.nesting.menuAnchor
  let caption := Markup.caption "Menu" title
  { s with
    nesting := s.nesting.pastMenuAnchor
    toc := (s.toc.push (.block anchor s.number caption)).push .openList
    body := s.body.push (.menu anchor s.number caption) }

/-- Writes link and heading of a choice and opens its list of entries. -/
def announceChoice (s : WalkState) (title : Option Text) : WalkState :=
  let anchor := s.nesting.choiceAnchor
  let caption := Markup.caption "Choice" title
  { s with
    nesting := s.nesting.pastChoiceAnchor
    toc := s.toc.push (.block anchor s.number caption)
    body := (s.body.push (.choice anchor s.number caption)).push .openList }

/-- One more open choice. -/
def enterChoice (s : WalkState) : WalkState :=
  { s with nesting := { s.nesting with inChoice := s.nesting.inChoice + 1 } }

/-- One open choice less, if there is one. -/
def leaveChoice (s : WalkState) : WalkState :=
  { s with nesting := { s.nesting with inChoice := s.nesting.inChoice - 1 } }

end WalkState

namespace Walk

/-- Takes over the outcome of a computation without state. -/
def lift (outcome : Except Failure α) : Walk α :=
  match outcome with
  | .ok a => pure a
  | .error e => throw e

/-- A step of the nesting. -/
def nest (step : Nesting → Except Failure Nesting) : Walk Unit := do
  let nesting ← lift (step (← get).nesting)
  modify fun s => { s with nesting := nesting }

def note (record : LogRecord) : Walk Unit := modify (·.note record)

def debug (message : Text) : Walk Unit := note (.debug message)

end Walk

end KconfigReference
