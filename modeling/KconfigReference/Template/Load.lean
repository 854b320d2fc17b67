import KconfigReference.Failure
import KconfigReference.Files.Tree
import KconfigReference.Setting.Basic
import KconfigReference.Template.Assignment.Run
import KconfigReference.Template.Json
import KconfigReference.Text.Basic

/-!
Templates: files that give settings. The format of a template is known by the suffix of its path,
and every format gives a mapping, or null for no settings at all. Templates in YAML are read by a
library, so everything here is said of whatever reader is given.
-/

namespace KconfigReference.Template

inductive Format where
  | assignments
  | yaml
  | json
deriving Repr, DecidableEq

def Format.ofSuffix? (suffix : Text) : Option Format :=
  if suffix = ".py" then some .assignments
  else if suffix = ".yaml" || suffix = ".yml" then some .yaml
  else if suffix = ".json" then some .json
  else none

/-- The report of an unusable template. -/
def unusable (path message : Text) : Failure := .reported (.inFile .template message path)

def notOpened (path reason : Text) : Failure := unusable path ("open failed: " ++ reason)

def notLoaded (path kind message : Text) : Failure :=
  unusable path ("template failed to load: " ++ kind ++ ": " ++ message)

/-- The text of a template in YAML or JSON, whose bytes must be one. -/
def textOf (content : Bytes) : Except Failure Text :=
  match Utf8.decode? content with
  | some text => .ok (Text.normalizeLineEndings text)
  | none => .error (.misused .badEncoding)

/-- How the reading of a file in YAML fails. -/
inductive YamlFailure where
  /-- The file is not YAML, or not for this reader, and this is what the reader says of it. -/
  | malformed (said : Text)
  /-- The reader fails in another way. -/
  | misused (m : Misuse)
deriving Repr, DecidableEq

/-- A reader of YAML gives the value of the document in a file. -/
abbrev YamlReader := Bytes → Except YamlFailure Setting

def readYaml (yaml : YamlReader) (path : Text) (content : Bytes) : Except Failure Setting :=
  match yaml content with
  | .ok value => .ok value
  | .error (.malformed said) => .error (unusable path ("parse failed: " ++ said))
  | .error (.misused m) => .error (.misused m)

def readJson (path : Text) (content : Bytes) : Except Failure Setting := do
  let text ← textOf content
  match Json.read text with
  | .ok value => pure value
  | .error (.unexpected message index) =>
      throw (unusable path ("parse failed: " ++ Json.describe text message index))
  | .error .integerTooLong => throw (.misused .badValue)

/-- How a fault of assignments is reported. -/
def describeFault (path : Text) : Assignment.Fault → Failure
  | .malformed message line => notLoaded path "SyntaxError" (placed message line)
  | .indented line => notLoaded path "IndentationError" (placed "unexpected indent" line)
  | .undecodable message => notLoaded path "UnicodeDecodeError" message
  | .nullCharacter =>
      notLoaded path "ValueError" "source code string cannot contain null bytes"
  | .moduleNotFound module =>
      notLoaded path "ModuleNotFoundError" ("No module named '" ++ module ++ "'")
  | .noPackage =>
      notLoaded path "ImportError" "attempted relative import with no known parent package"
  | .nameNotDefined name => notLoaded path "NameError" ("name '" ++ name ++ "' is not defined")
  | .divisionByZero amongReals =>
      notLoaded path "ZeroDivisionError"
        (if amongReals then "float division by zero" else "division by zero")
  | .integerTooLarge => notLoaded path "OverflowError" "int too large to convert to float"
  | .quotientTooLarge =>
      notLoaded path "OverflowError" "integer division result too large for a float"
  | .noQuotient dividend divisor =>
      notLoaded path "TypeError" ("unsupported operand type(s) for /: '" ++ dividend ++
        "' and '" ++ divisor ++ "'")
  | .noSign sign type =>
      notLoaded path "TypeError" ("bad operand type for unary " ++ [sign] ++ ": '" ++ type ++ "'")
  | .unhashable type => notLoaded path "TypeError" ("unhashable type: '" ++ type ++ "'")
  | .system arguments =>
      match Assignment.systemReason arguments with
      | .ok reason => notOpened path reason
      | .error m => .misused m
where
  placed (message : Text) (line : Nat) : Text :=
    message ++ " (" ++ Path.name path ++ ", line " ++ Text.ofNat line ++ ")"

/-- The value of the name `CONFIG`, or else of `config`. -/
def readAssignments (path : Text) (content : Bytes) : Except Failure Setting :=
  match Assignment.read content with
  | .error fault => .error (describeFault path fault)
  | .ok names =>
      match names.lookup "CONFIG".toList <|> names.lookup "config".toList with
      | some value => .ok value
      | none => .error (unusable path "Template file must define CONFIG or config dictionary")

/-- A path that holds a NUL character names nothing, and only a template of assignments reports
it. -/
def unnameable (format : Format) (path : Text) : Failure :=
  match format with
  | .assignments => notLoaded path "ValueError" "embedded null byte"
  | _ => .misused .badValue

/-- The value that a template gives. `path` is in normal form. -/
def readValue (yaml : YamlReader) (tree : FileTree) (path : Text) : Except Failure Setting :=
  match Format.ofSuffix? (Path.suffix path) with
  | none =>
      .error (unusable path "unsupported template format (expected .py, .yaml, .yml or .json)")
  | some format =>
      if path.contains '\x00' then .error (unnameable format path)
      else
        match tree.read path with
        | .error e => .error (notOpened path e.reason)
        | .ok content =>
            match format with
            | .assignments => readAssignments path content
            | .yaml => readYaml yaml path content
            | .json => readJson path content

/-- The entries that the template at a path gives. -/
def load (yaml : YamlReader) (tree : FileTree) (path : Text) :
    Except Failure (List (Setting × Setting)) := do
  let name := Path.normal path
  match ← readValue yaml tree name with
  | .null => pure []
  | .dict entries => pure entries
  | _ => throw (unusable name "template must contain a mapping of settings")

/-- The built-in settings, then those of the template at a path, then the overrides that are not
null. -/
def settings (yaml : YamlReader) (tree : FileTree) (template : Option Text)
    (overrides : List (Setting × Setting)) : Except Failure Settings := do
  let given ← match template.getD [] with
    | [] => pure []
    | path => load yaml tree path
  pure ((Settings.builtIn.update given).override overrides)

end KconfigReference.Template
