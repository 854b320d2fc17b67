import KconfigReference.Failure
import KconfigReference.Setting.Basic
import KconfigReference.Text.Digit
import KconfigReference.Text.Quoted

/-!
The command line. Options may be shortened as long as they stay unambiguous, single letters may be
joined, and a value may be joined to its option or follow it. After `--` nothing is an option. What
is left over is an unrecognized option if it looks like one, and garbage otherwise.
-/

namespace KconfigReference.Command

/-- The options of the command. -/
inductive Flag where
  | help
  | appsDirectory
  | output
  | internal
  | debug
  | verbose
  | template
  | title
deriving Repr, DecidableEq

namespace Flag

/-- The spellings of the options, in the order in which they are documented. -/
def spellings : List (Text × Flag) :=
  [("-h", .help), ("--help", .help), ("-a", .appsDirectory), ("--apps-dir", .appsDirectory),
    ("-o", .output), ("--output", .output), ("-i", .internal), ("--internal", .internal),
    ("-d", .debug), ("--debug", .debug), ("-v", .verbose), ("--verbose", .verbose),
    ("-t", .template), ("--template", .template), ("--title", .title)]

def ofSpelling? (spelling : Text) : Option Flag := spellings.lookup spelling

/-- All spellings of one option. -/
def name (flag : Flag) : Text :=
  Text.join ['/'] ((spellings.filter fun (_, f) => f = flag).map (·.1))

def takesValue : Flag → Bool
  | .appsDirectory => true
  | .output => true
  | .template => true
  | .title => true
  | _ => false

end Flag

/-- The values of the options. A value that is the separator `--` alone counts as a list of no
texts. -/
structure Arguments where
  appsDirectory : Setting
  output : Setting
  internal : Bool
  debug : Bool
  verbose : Bool
  template : Setting
  title : Setting
  root : Text

namespace Arguments

def default : Arguments := ⟨.null, .null, false, false, false, .null, .null, "."⟩

def enable (a : Arguments) : Flag → Arguments
  | .internal => { a with internal := true }
  | .debug => { a with debug := true }
  | .verbose => { a with verbose := true }
  | _ => a

def give (a : Arguments) (flag : Flag) (value : Text) : Arguments :=
  let value : Setting := if value = ['-', '-'] then .list [] else .text value
  match flag with
  | .appsDirectory => { a with appsDirectory := value }
  | .output => { a with output := value }
  | .template => { a with template := value }
  | .title => { a with title := value }
  | _ => a

end Arguments

/-- Why the command line gives no arguments. -/
inductive Refusal where
  /-- The help text was asked for. -/
  | help
  | usage (d : Diagnostic)
deriving Repr, DecidableEq

/-- What an argument is taken for. -/
inductive Word where
  | positional (text : Text)
  /-- The first `--`. -/
  | separator
  /-- An option as it is spelled in full, with the value joined to it. -/
  | option (flag : Flag) (spelling : Text) (joined : Option Text)
  /-- Something that looks like an option but is none. -/
  | unknown (text : Text)
deriving Repr, DecidableEq

namespace Word

/-- The argument as it was given, for arguments that are left over. -/
def text : Word → Text
  | .positional text => text
  | .separator => ['-', '-']
  | .option _ spelling _ => spelling
  | .unknown text => text

def isOption : Word → Bool
  | .option .. => true
  | .unknown _ => true
  | _ => false

end Word

/-- A misuse of an option; a missing value is told apart from everything else by its wording. -/
def optionError (message : Text) : Refusal :=
  .usage <|
    if Text.occursIn "expected one argument" message then
      .unplaced (.usage .missingOptionArgument) ("Missing option argument: " ++ message)
    else .unplaced (.usage .unexpectedOption) ("Unexpected option: " ++ message)

def argumentError (flag : Flag) (message : Text) : Refusal :=
  optionError ("argument " ++ flag.name ++ ": " ++ message)

/-- The part before the first equals sign, and the part after it if there is one. -/
def splitValue (argument : Text) : Text × Option Text :=
  match Text.splitAtFirst ['='] argument with
  | some (before, after) => (before, some after)
  | none => (argument, none)

/-- Whether an argument is a negative number: a minus sign and digits, with a point before the last
of them or none; a line feed may follow. -/
def isNegativeNumber (argument : Text) : Bool :=
  let body := if argument.getLast? = some '\n' then argument.dropLast else argument
  let unsigned := body.drop 1
  let whole := unsigned.takeWhile Text.isDigit
  match unsigned.drop whole.length with
  | [] => whole ≠ []
  | '.' :: part => part ≠ [] && part.all Text.isDigit
  | _ => false

/-- The options that an argument may be short for, with their full spellings. -/
def candidates (argument : Text) : List Word :=
  match argument with
  | '-' :: '-' :: _ =>
      let (stem, joined) := splitValue argument
      (Flag.spellings.filter fun (spelling, _) => stem.isPrefixOf spelling).map
        fun (spelling, flag) => .option flag spelling joined
  | _ =>
      (Flag.spellings.filter fun (spelling, _) => spelling = argument.take 2).map
        fun (spelling, flag) => .option flag spelling (some (argument.drop 2))

/-- What an argument before the separator is taken for. -/
def classify (argument : Text) : Except Refusal Word :=
  if argument.head? ≠ some '-' then .ok (.positional argument)
  else
    match Flag.ofSpelling? argument with
    | some flag => .ok (.option flag argument none)
    | none =>
        if argument.length = 1 then .ok (.positional argument)
        else
          let (stem, joined) := splitValue argument
          match Flag.ofSpelling? stem, joined with
          | some flag, some value => .ok (.option flag stem (some value))
          | _, _ =>
              match candidates argument with
              | [word] => .ok word
              | [] =>
                  if isNegativeNumber argument || argument.contains ' ' then
                    .ok (.positional argument)
                  else .ok (.unknown argument)
              | many =>
                  .error (optionError ("ambiguous option: " ++ argument ++ " could match " ++
                    Text.join ", " (many.map Word.text)))

/-- What all arguments are taken for. -/
def classifyAll : List Text → Except Refusal (List Word)
  | [] => .ok []
  | argument :: rest =>
      if argument = ['-', '-'] then .ok (.separator :: rest.map .positional)
      else do
        let word ← classify argument
        pure (word :: (← classifyAll rest))

/-- What has been made of the arguments so far. -/
structure Progress where
  arguments : Arguments
  hasRoot : Bool
  left : List Text

namespace Progress

def leave (p : Progress) (texts : List Text) : Progress := { p with left := p.left ++ texts }

def setRoot (p : Progress) (root : Text) : Progress :=
  { p with arguments := { p.arguments with root := root }, hasRoot := true }

/-- Takes an option without a value. -/
def enable (p : Progress) (flag : Flag) : Except Refusal Progress :=
  match flag with
  | .help => .error .help
  | flag => .ok { p with arguments := p.arguments.enable flag }

def give (p : Progress) (flag : Flag) (value : Text) : Progress :=
  { p with arguments := p.arguments.give flag value }

end Progress

/-- An option together with those joined to it, and the value joined to the last one. -/
structure Joined where
  before : List Flag
  last : Flag
  value : Option Text

/-- Takes apart an option and the text joined to it. Letters after an option without a value are
options themselves; a spelling with two dashes cannot be followed by any. -/
def unjoin (flag : Flag) (spelling : Text) (joined : Option Text) : Except Refusal Joined :=
  match joined with
  | none => .ok ⟨[], flag, none⟩
  | some value =>
      if flag.takesValue then .ok ⟨[], flag, some value⟩
      else
        let ignored : Except Refusal Joined :=
          .error (argumentError flag ("ignored explicit argument " ++ Text.quoted value))
        letters flag value ignored (spelling[1]? ≠ some '-')
where
  /-- Reads the letters of a text as options, or fails as `ignored` says. -/
  letters (flag : Flag) (value : Text) (ignored : Except Refusal Joined) (short : Bool) :
      Except Refusal Joined :=
    match value with
    | [] => ignored
    | letter :: more =>
        if !short then ignored
        else
          match Flag.ofSpelling? ['-', letter] with
          | none => ignored
          | some next =>
              if more = [] then .ok ⟨[flag], next, none⟩
              else if next.takesValue then .ok ⟨[flag], next, some more⟩
              else
                (letters next more
                  (.error (argumentError next ("ignored explicit argument " ++ Text.quoted more)))
                  true).map fun j => { j with before := flag :: j.before }

/-- Takes the root from the arguments after the last option, which may stand on either side of the
separator; whatever follows is left over. -/
def finish (p : Progress) (words : List Word) : Progress :=
  if p.hasRoot then p.leave (words.map Word.text)
  else
    match words with
    | .positional root :: .separator :: rest => (p.setRoot root).leave (rest.map Word.text)
    | .positional root :: rest => (p.setRoot root).leave (rest.map Word.text)
    | [.separator] => p
    | .separator :: root :: rest => (p.setRoot root.text).leave (rest.map Word.text)
    | rest => p.leave (rest.map Word.text)

/-- Makes arguments of what the words were taken for, from left to right. -/
def consume (p : Progress) : List Word → Except Refusal Progress
  | [] => .ok (finish p [])
  | .unknown text :: rest => consume (p.leave [text]) rest
  | .option flag spelling joined :: rest => do
      let j ← unjoin flag spelling joined
      match j.last.takesValue, j.value, rest with
      | true, some value, rest =>
          consume ((← j.before.foldlM Progress.enable p).give j.last value) rest
      | true, none, .positional value :: rest =>
          consume ((← j.before.foldlM Progress.enable p).give j.last value) rest
      | true, none, _ => .error (argumentError j.last "expected one argument")
      | false, _, rest => consume (← (j.before ++ [j.last]).foldlM Progress.enable p) rest
  | .positional text :: rest =>
      if rest.any Word.isOption then
        if p.hasRoot then consume (p.leave [text]) rest else consume (p.setRoot text) rest
      else .ok (finish p (.positional text :: rest))
  | .separator :: rest => .ok (finish p (.separator :: rest))

/-- The diagnostic for what is left over: the first that looks like an option, else garbage. -/
def leftOver (left : List Text) : Option Diagnostic :=
  match left.find? fun text => text.head? = some '-' && text ≠ ['-'] with
  | some text =>
      some (.unplaced (.usage .unrecognizedOption) ("Unrecognized option: " ++ text))
  | none =>
      if left = [] then none
      else some (.unplaced (.usage .tooManyArguments) "Unexpected garbage at the end of the line")

/-- Reads the command line. -/
def parseArguments (arguments : List Text) : Except Refusal Arguments := do
  let words ← classifyAll arguments
  let p ← consume ⟨.default, false, []⟩ words
  match leftOver p.left with
  | some d => throw (.usage d)
  | none => pure p.arguments

/-- The lines that remind of the usage. -/
def usageText : Text :=
  "usage: kconfig2html [-h] [-a APPS_DIR] [-o OUTPUT] [-i] [-d] [-v]\n" ++
    "                    [-t TEMPLATE] [--title TITLE]\n" ++
    "                    [kconfig_root]\n"

def helpText : Text :=
  usageText ++ "\n" ++
    "Generate an HTML reference of Kconfig configuration variables\n" ++
    "\n" ++
    "positional arguments:\n" ++
    "  kconfig_root          Directory containing the root Kconfig file (default:\n" ++
    "                        .)\n" ++
    "\n" ++
    "options:\n" ++
    "  -h, --help            show this help message and exit\n" ++
    "  -a APPS_DIR, --apps-dir APPS_DIR\n" ++
    "                        Path to the apps/ directory, relative to the Kconfig\n" ++
    "                        root (default: ../apps)\n" ++
    "  -o OUTPUT, --output OUTPUT\n" ++
    "                        Output file path (default: stdout)\n" ++
    "  -i, --internal        Show hidden, internal configuration variables\n" ++
    "  -d, --debug           Enable debug output\n" ++
    "  -v, --verbose         Report progress on stderr\n" ++
    "  -t TEMPLATE, --template TEMPLATE\n" ++
    "                        Optional .py, .yaml or .json settings file\n" ++
    "  --title TITLE         Document title (overrides template)\n"

end KconfigReference.Command
