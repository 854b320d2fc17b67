import KconfigReference.Text.Basic

/-!
What can go wrong. A diagnostic is a fault of the input or of the command line that the program
reports, with the exit code of its kind; a misuse is a value that an operation has no meaning for,
which ends the program without a report.
-/

namespace KconfigReference

/-- The exit codes of the command. -/
inductive ExitCode where
  | success
  | unrecognizedOption
  | missingOptionArgument
  | unexpectedOption
  | tooManyArguments
  | outputOpenFailure
  | stagingOpenFailure
  | kconfigOpenFailure
  | tooManyConditions
  | conditionUnderflow
  | nestingTooDeep
  | nestingUnderflow
  | templateLoadFailure
deriving Repr, DecidableEq

namespace ExitCode

/-- All exit codes, in the order of their numbers. -/
def all : List ExitCode :=
  [success, unrecognizedOption, missingOptionArgument, unexpectedOption, tooManyArguments,
    outputOpenFailure, stagingOpenFailure, kconfigOpenFailure, tooManyConditions,
    conditionUnderflow, nestingTooDeep, nestingUnderflow, templateLoadFailure]

/-- The number that the process returns. -/
def number (code : ExitCode) : Nat := all.idxOf code

def ofNumber? (n : Nat) : Option ExitCode := all[n]?

end ExitCode

/-- The kinds of faults that the program reports. -/
inductive DiagnosticKind where
  /-- A fault of no particular kind, without an exit code. -/
  | general
  /-- A bad command line; the option parser chooses the exit code. -/
  | usage (code : ExitCode)
  | outputOpen
  | staging
  | kconfigOpen
  | conditionOverflow
  | conditionUnderflow
  | nestingOverflow
  | nestingUnderflow
  | template
deriving Repr, DecidableEq

def DiagnosticKind.exitCode? : DiagnosticKind → Option ExitCode
  | .general => none
  | .usage code => some code
  | .outputOpen => some .outputOpenFailure
  | .staging => some .stagingOpenFailure
  | .kconfigOpen => some .kconfigOpenFailure
  | .conditionOverflow => some .tooManyConditions
  | .conditionUnderflow => some .conditionUnderflow
  | .nestingOverflow => some .nestingTooDeep
  | .nestingUnderflow => some .nestingUnderflow
  | .template => some .templateLoadFailure

/-- Where a fault was found: a file, and a line in it. -/
structure Place where
  path : Option Text
  line : Option Int
deriving Repr, DecidableEq

def Place.nowhere : Place := ⟨none, none⟩

/-- A reported fault. -/
structure Diagnostic where
  kind : DiagnosticKind
  message : Text
  place : Place
deriving Repr, DecidableEq

namespace Diagnostic

/-- The message after its place; a line without a file is not shown. -/
def text (d : Diagnostic) : Text :=
  match d.place with
  | ⟨some path, some line⟩ => path ++ ":" ++ Text.ofInt line ++ ": " ++ d.message
  | ⟨some path, none⟩ => path ++ ": " ++ d.message
  | ⟨none, _⟩ => d.message

def inFile (kind : DiagnosticKind) (message path : Text) : Diagnostic :=
  ⟨kind, message, ⟨some path, none⟩⟩

def unplaced (kind : DiagnosticKind) (message : Text) : Diagnostic := ⟨kind, message, .nowhere⟩

def nestingTooDeep (place : Place) : Diagnostic :=
  ⟨.nestingOverflow, "Nesting level is too deep, aborting", place⟩

def nestingUnderflow (place : Place) : Diagnostic :=
  ⟨.nestingUnderflow, "Nesting level underflow, aborting", place⟩

def tooManyConditions (place : Place) : Diagnostic :=
  ⟨.conditionOverflow, "Too many dependencies, aborting", place⟩

def conditionUnderflow (place : Place) : Diagnostic :=
  ⟨.conditionUnderflow, "Dependency underflow, aborting", place⟩

end Diagnostic

/-- Values that an operation has no meaning for. -/
inductive Misuse where
  /-- A setting of a type that cannot be compared, counted or joined. -/
  | wrongType
  /-- A setting that should be a text where its characters are replaced. -/
  | notText
  /-- A value of the right type that is not allowed. -/
  | badValue
  /-- An index before the beginning. -/
  | badIndex
  /-- A name that a table does not hold. -/
  | badKey
  /-- A number too great for its purpose. -/
  | overflow
  /-- A step beyond the last line. -/
  | exhausted
  /-- Bytes that are no text. -/
  | badEncoding
  /-- A text with a half of a surrogate pair where bytes are needed. -/
  | unencodable
  | fileNotFound
  | isDirectory
  | notDirectory
  | nameTooLong
  | notPermitted
  /-- Files that source each other without end. -/
  | endless
deriving Repr, DecidableEq

/-- Why a run stopped. -/
inductive Failure where
  | reported (d : Diagnostic)
  | misused (m : Misuse)
deriving Repr, DecidableEq

section

variable {ε α β : Type} {first : Except ε α} {next : α → Except ε β} {e : ε} {b : β}

/-- The second operation gives the result from what the first one gave. -/
theorem bind_eq_ok_iff : first >>= next = .ok b ↔ ∃ a, first = .ok a ∧ next a = .ok b := by
  cases first <;> simp [bind, Except.bind]

/-- One of the two fails. -/
theorem bind_eq_error_iff :
    first >>= next = .error e ↔ first = .error e ∨ ∃ a, first = .ok a ∧ next a = .error e := by
  cases first <;> simp [bind, Except.bind]

end

end KconfigReference
