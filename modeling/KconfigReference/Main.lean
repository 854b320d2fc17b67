import KconfigReference.Command.Generate
import KconfigReference.Command.Verify
import KconfigReference.Files.Survey
import KconfigReference.Walk.Run
import Std.Time.Zoned

/-!
The programs. They show the files that a command needs to the command, and carry out what it
decided.
-/

namespace KconfigReference.Program

/-- The refusal that an error of the system stands for; other errors are passed on. -/
def refusal (error : IO.Error) : IO SystemError :=
  match error with
  | .noFileOrDirectory .. => pure .notFound
  | .inappropriateType _ code _ => pure (if code = 20 then .notDirectory else .isDirectory)
  | .invalidArgument .. => pure .nameTooLong
  | .permissionDenied .. => pure .notPermitted
  | other => throw other

/-- What an action on the file of a path shows. -/
def findingOf (action : IO ByteArray) : IO Finding := do
  try
    return .content (← action).toList
  catch error =>
    return .refused (← refusal error)

/-- Shows the file of a path to a tree. A tree has no place for a file that may not be read. -/
def survey (tree : FileTree) (path : Text) : IO FileTree := do
  if path.contains '\x00' then return tree
  match ← findingOf (IO.FS.readBinFile (String.ofList path)) with
  | .refused .notPermitted => throw (.userError (String.ofList path))
  | finding => return tree.record path finding

/-- Opens the output for writing, which empties it, and tells why that is not permitted. -/
def surveyOutput (tree : FileTree) (output : Option Text) :
    IO (FileTree × Option SystemError) := do
  let some path := output | return (tree, none)
  if path.contains '\x00' then return (tree, none)
  let opening : IO ByteArray := do
    let _ ← IO.FS.Handle.mk (String.ofList path) .write
    return .empty
  match ← findingOf opening with
  | .refused .notPermitted => return (tree.record path (.content []), some .notPermitted)
  | finding => return (tree.record path finding, none)

/-- Removes the output, or tells why the system refuses that. -/
def removeOutput (path : Text) : IO (Option SystemError) := do
  let removing : IO ByteArray := do
    IO.FS.removeFile (String.ofList path)
    return .empty
  match ← findingOf removing with
  | .refused e => return some e
  | .content _ => return none

/-- Reads the files that a walk may open, each of them once. -/
partial def surveySources (ctx : WalkContext) (seen pending : List Text) (tree : FileTree) :
    IO FileTree := do
  match pending with
  | [] => return tree
  | path :: rest =>
      if seen.contains path then surveySources ctx seen rest tree
      else
        let tree ← survey tree path
        let found := match { ctx with tree := tree }.readText path with
          | .ok text => ctx.sources path text
          | .error _ => []
        surveySources ctx (path :: seen) (found ++ rest) tree

/-- The files that a command line is about, its output opened, and the host of the command. -/
def surveyFor (arguments : List Text) : IO (FileTree × Host) := do
  let host := Host.willing
  let .ok a := Command.parseArguments arguments | return (.unsurveyed, host)
  let template := Command.Arguments.text? a.template
  let tree ← match template with
    | some path => survey .unsurveyed (Path.normal path)
    | none => pure .unsurveyed
  let .ok settings := Template.settings host.yaml tree template a.overrides | return (tree, host)
  let (tree, opening) ← surveyOutput tree a.outputPath?
  let host := { host with opening }
  let ctx := WalkContext.ofSettings settings tree a.root
  match ctx.layout.filePath a.root with
  | .ok path => return (← surveySources ctx [] [path] tree, host)
  | .error _ => return (tree, host)

/-- Gives the output the content that a command left in it, or removes it if the command did and
tells whether the system refused that. -/
def settleOutput (before after : FileTree) (output : Option Text) : IO (Option SystemError) := do
  let some path := output | return none
  match before.read path, after.read path with
  | .ok old, .ok new =>
      if new ≠ old then IO.FS.writeBinFile (String.ofList path) ⟨new.toArray⟩
      return none
  | .ok _, .error _ => removeOutput path
  | _, _ => return none

/-- Writes what a command said, and gives its exit code. -/
def finish (outcome : Outcome) : IO UInt32 := do
  (← IO.getStderr).putStr (String.ofList outcome.errors)
  (← IO.getStdout).putStr (String.ofList outcome.output)
  match outcome.ending with
  | .exit code => return UInt32.ofNat code
  | .stopped _ => return 1

def today : IO Date := do
  let date ← Std.Time.PlainDate.now
  return ⟨date.year.toInt.toNat, date.month.val.toNat, date.day.val.toNat⟩

/-- Makes a reference. -/
def generate (arguments : List Text) : IO UInt32 := do
  let (tree, host) ← surveyFor arguments
  let date ← today
  let outcome := Command.generate host arguments tree date
  let output := match Command.parseArguments arguments with
    | .ok a => a.outputPath?
    | .error _ => none
  let removal ← settleOutput tree outcome.tree output
  finish (Command.generate { host with removal } arguments tree date)

/-- Checks a page. -/
def verify (arguments : List Text) : IO UInt32 := do
  let tree ← match arguments with
    | path :: _ => survey .unsurveyed (Path.normal path)
    | [] => pure .unsurveyed
  finish (Command.verify arguments tree)

end KconfigReference.Program

def main (arguments : List String) : IO UInt32 :=
  KconfigReference.Program.generate (arguments.map String.toList)
