import KconfigReference.Failure
import KconfigReference.Files.Tree
import KconfigReference.Setting.Written

/-!
Source lines: from the argument of a `source` line to the directory whose file is read next. Only
the directory part of the argument counts, and it is taken below the root of the tree; where the
apps token stands in it, the apps directory is put instead, once and at the leftmost place.
-/

namespace KconfigReference

/-- How the files of a tree are named. -/
structure Layout where
  root : Text
  appsDirectory : Setting
  appsToken : Setting
  fileName : Setting

namespace Layout

/-- The text without one quotation mark at each end; none when nothing is left. -/
def dequote (text : Text) : Option Text :=
  let opened := if text.getLast? = some '"' then text.dropLast else text
  let bare := if opened.head? = some '"' then opened.drop 1 else opened
  if bare = [] then none else some bare

/-- The path of the Kconfig file in a directory. -/
def filePath (layout : Layout) (directory : Text) : Except Misuse Text := do
  pure (directory ++ "/" ++ (← layout.fileName.shown).inName)

/-- The path where the name of Kconfig files has a text. -/
theorem filePath_eq {layout : Layout} {name : CodeText} (h : layout.fileName.shown = .ok name)
    (directory : Text) : layout.filePath directory = .ok (directory ++ "/" ++ name.inName) := by
  rw [filePath, h]
  rfl

/-- Where it has none, no directory has a path. -/
theorem filePath_eq_error {layout : Layout} {m : Misuse} (h : layout.fileName.shown = .error m)
    (directory : Text) : layout.filePath directory = .error m := by
  rw [filePath, h]
  rfl

/-- A source argument and what became of it. -/
structure Resolved where
  argument : Text
  /-- The directory part of the argument. -/
  part : Text
  directory : Text
  /-- Whether the system takes the directory as a part of a path. -/
  isNameable : Bool
deriving Repr, DecidableEq

/-- What a run says about a resolved argument. -/
def Resolved.remark (r : Resolved) : Text :=
  "Resolved source " ++ r.argument ++ ": subdir=" ++ r.part ++ " dirpath=" ++ r.directory

/-- Whether the system takes the name of the files as a part of a path. -/
def hasNameableFiles (layout : Layout) : Bool :=
  match layout.fileName with
  | .text name => name.nameBytes?.isSome
  | _ => true

/-- The directory that an argument names below the root, given the token as a text, and whether the
system takes it. -/
def splice (layout : Layout) (token : CodeText) (part : Text) : Except Misuse (Text × Bool) := do
  match token.plain?.bind (Text.splitAtFirst · part) with
  | some (before, after) => do
      let apps ← layout.appsDirectory.shown
      pure (layout.root ++ "/" ++ before ++ apps.inName ++ after, apps.nameBytes?.isSome)
  | none => pure (layout.root ++ "/" ++ part, true)

/-- Resolves a source argument; none for an empty one. The token must be a text and not empty. -/
def resolve (layout : Layout) (argument : Text) : Except Misuse (Option Resolved) :=
  match dequote argument with
  | none => .ok none
  | some path =>
      let part := if Path.directory path = [] then ['.'] else Path.directory path
      match layout.appsToken with
      | .text [] => .error .badValue
      | .text token => do
          let (directory, isNameable) ← layout.splice token part
          pure (some ⟨path, part, directory, isNameable⟩)
      | _ => .error .wrongType

end Layout

end KconfigReference
