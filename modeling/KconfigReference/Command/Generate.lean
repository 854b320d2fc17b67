import KconfigReference.Command.Options
import KconfigReference.Command.Outcome
import KconfigReference.Reference

/-!
The command that makes a reference. The output file is opened before the tree is walked, so that a
path that cannot be written fails early, and after a later failure it is removed again.
-/

namespace KconfigReference.Command

namespace Arguments

/-- The least severe level that is shown. -/
def logLevel (a : Arguments) : LogLevel :=
  if a.debug then .debug else if a.verbose then .info else .warning

/-- The text of an option, if a nonempty one is given. -/
def text? : Setting → Option Text
  | .text [] => none
  | .text t => t.plain?
  | _ => none

def outputPath? (a : Arguments) : Option Text := text? a.output

/-- What the run says before it starts. -/
def announcements (a : Arguments) : List LogRecord :=
  [.debug ("Using <Kconfig directory>: " ++ a.root),
    .debug ("Using <apps directory>:    " ++ (text? a.appsDirectory).getD "(template/default)"),
    .debug ("Using <out file>:          " ++ a.outputPath?.getD "stdout")]

/-- The settings that the options give. -/
def overrides (a : Arguments) : List (Setting × Setting) :=
  [(.text "title", a.title), (.text "apps_dir", a.appsDirectory),
    (.text "show_internal", if a.internal then .bool true else .null)]

end Arguments

/-- The files after the output has been opened, which empties it. -/
def openOutput (host : Host) (tree : FileTree) (output : Option Text) : Except Failure FileTree :=
  let refused (path : Text) (e : SystemError) : Failure :=
    .reported (.inFile .outputOpen ("open failed: " ++ e.reason) path)
  match output with
  | none => .ok tree
  | some path =>
      if path.contains '\x00' then .error (.misused .badValue)
      else
        match tree.write path [], host.opening with
        | .error e, _ => .error (refused path e)
        | .ok _, some e => .error (refused path e)
        | .ok opened, none => .ok opened

/-- How a run ends that failed. -/
def fail (level : LogLevel) (log : List LogRecord) (tree : FileTree) : Failure → Outcome
  | .misused m => ⟨.stopped m, [], logText level log, tree⟩
  | .reported d =>
      let code := (d.kind.exitCode?.getD .success).number
      ⟨.exit code, [], logText level (log ++ [⟨.error, d.text⟩]), tree⟩

/-- The outcome of a run that failed after its output was opened: the output is removed again. If
that is refused the output stays, and the refusal takes the place of the failure. -/
def withdraw (host : Host) (output : Option Text) (failed : Outcome) : Outcome :=
  match output with
  | none => failed
  | some path =>
      match failed.tree.exists? path with
      | .ok true =>
          match failed.tree.remove path host.removal with
          | .ok removed => { failed with tree := removed }
          | .error e => { failed with ending := .stopped (.ofSystem e) }
      | _ => failed

/-- The files after a page has been written to the output, and why the writing failed if it did. -/
def writePage (host : Host) (tree : FileTree) (path text : Text) : FileTree × Option Text :=
  match host.writing with
  | none =>
      match tree.write path (Utf8.encode text) with
      | .ok written => (written, none)
      | .error e => (tree, some e.reason)
  | some (count, reason) =>
      match tree.write path ((Utf8.encode text).take count) with
      | .ok written => (written, some reason)
      | .error e => (tree, some e.reason)

/-- How a run ends that made a page. -/
def deliver (host : Host) (level : LogLevel) (log : List LogRecord) (tree : FileTree)
    (output : Option Text) (page : CodeText) : Outcome :=
  match output with
  | none =>
      match host.output page with
      | some m => fail level log tree (.misused m)
      | none => ⟨.exit 0, page.joined, logText level log, tree⟩
  | some path =>
      match page.plain? with
      | none => withdraw host output (fail level log tree (.misused .unencodable))
      | some text =>
          match writePage host tree path text with
          | (written, some reason) =>
              let d : Diagnostic := .inFile .outputOpen ("write failed: " ++ reason) path
              withdraw host output (fail level log written (.reported d))
          | (written, none) =>
              let done : LogRecord := ⟨.info, "HTML documentation written to: " ++ path⟩
              ⟨.exit 0, [], logText level (log ++ [done]), written⟩

/-- Makes a reference as arguments ask for it. -/
def generateWith (host : Host) (a : Arguments) (tree : FileTree) (today : Date) : Outcome :=
  let level := a.logLevel
  let output := a.outputPath?
  let prepared := do
    let settings ← Template.settings host.yaml tree (Arguments.text? a.template) a.overrides
    pure (settings, ← openOutput host tree output)
  match prepared with
  | .error failure => fail level a.announcements tree failure
  | .ok (settings, opened) =>
      let made := Reference.generate settings opened a.root today host.staging
      let log := a.announcements ++ made.log
      match made.result with
      | .error failure => withdraw host output (fail level log opened failure)
      | .ok page => deliver host level log opened output page

/-- Makes a reference as a command line asks for it. -/
def generate (host : Host) (arguments : List Text) (tree : FileTree) (today : Date) : Outcome :=
  match parseArguments arguments with
  | .error .help => ⟨.exit 0, helpText, [], tree⟩
  | .error (.usage d) =>
      let code := (d.kind.exitCode?.getD .success).number
      ⟨.exit code, [], d.text ++ "\n" ++ usageText, tree⟩
  | .ok a => generateWith host a tree today

end KconfigReference.Command
