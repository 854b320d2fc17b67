import KconfigReference.Template.Yaml.Value

/-!
What a command gets from outside and what it leaves behind. The host is whatever answers a command
beside the files that it is shown: the system, which may refuse what a command asks of it, and the
reader of YAML. An outcome says how the command ended, what it wrote to its two output streams, and
what became of the files.
-/

namespace KconfigReference

structure Host where
  yaml : Template.YamlReader
  /-- Why a file is not opened for writing, if it is refused although the path is in order. -/
  opening : Option SystemError
  /-- Why a staging buffer is refused, if it is. -/
  staging : Option Text
  /-- Why the writing of an opened file breaks off, if it does, and how many bytes have come there
  by then. -/
  writing : Option (Nat × Text)
  /-- How standard output refuses a page, if it does. It shows nothing of a page that it refuses. -/
  output : CodeText → Option Misuse
  /-- Why a file is not removed, if it is refused. -/
  removal : Option SystemError

/-- How a refusal of the system ends a command that does not report it. -/
def Misuse.ofSystem : SystemError → Misuse
  | .notFound => .fileNotFound
  | .isDirectory => .isDirectory
  | .notDirectory => .notDirectory
  | .nameTooLong => .nameTooLong
  | .notPermitted => .notPermitted

namespace Host

/-- Standard output takes characters only. -/
def charactersOnly (page : CodeText) : Option Misuse :=
  match page.plain? with
  | some _ => none
  | none => some .unencodable

/-- A host that refuses nothing that it is able to do. -/
def willing : Host where
  yaml := Yaml.reader
  opening := none
  staging := none
  writing := none
  output := charactersOnly
  removal := none

end Host

inductive Ending where
  | exit (code : Nat)
  /-- The command ended without an exit code of its own. -/
  | stopped (cause : Misuse)
deriving Repr, DecidableEq

structure Outcome where
  ending : Ending
  output : Text
  errors : Text
  tree : FileTree

end KconfigReference
