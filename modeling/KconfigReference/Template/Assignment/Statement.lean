import KconfigReference.Template.Assignment.Token
import KconfigReference.Text.Normal.Form

/-!
Statements of templates of assignments, and the expressions in them. A fault of the form is reported
where it is found, unless the text breaks off later in a way that counts more.
-/

namespace KconfigReference.Assignment

inductive Expression where
  | value (s : Setting)
  | name (n : Text)
  | list (items : List Expression)
  | tuple (items : List Expression)
  | set (items : List Expression)
  | dict (entries : List (Expression × Expression))
  | signed (sign : Char) (e : Expression)
  | quotient (a b : Expression)

inductive Statement where
  | assign (names : List Text) (e : Expression)
  /-- A name with a remark on its type, and perhaps a value. -/
  | annotate (name : Text) (e : Option Expression) (type : Expression)
  | evaluate (e : Expression)
  | importModule (module : Text)
  | importSibling
  | systemError (arguments : List Expression)
  | nothing

/-- A fault of the form: what is reported on which line, and the line of the last token that was
looked at. A settled fault is reported whatever comes after it. -/
inductive Slip where
  | found (message : Text) (line reach : Nat)
  | settled (fault : Fault)

abbrev Parse := StateT Tokens (Except Slip)

namespace Parse

/-- The next token. The place where the text breaks off is no token. -/
def peek : Parse (Placed Token) := do
  match (← get).head? with
  | some ⟨.broken how, _⟩ => throw (.settled how.reached)
  | some placed => pure placed
  | none => pure ⟨.fileEnd, 1⟩

def skip : Parse Unit := modify (·.drop 1)

/-- Reports a fault on a line. -/
def slip (message : Text) (line : Nat) : Parse α := do throw (.found message line (← peek).line)

/-- The next token cannot stand where it does. -/
def invalid : Parse α := do
  let next ← peek
  throw (.found "invalid syntax" next.line next.line)

/-- Whether the next token is a mark. -/
def nextIs (mark : String) : Parse Bool := do
  match (← peek).item with
  | .symbol found => pure (found = mark.toList)
  | _ => pure false

/-- Skips a mark if it comes next, and tells whether it did. -/
def skipIf (mark : String) : Parse Bool := do
  if ← nextIs mark then
    skip
    pure true
  else pure false

def expect (mark : String) : Parse Unit := do
  if !(← skipIf mark) then invalid

/-- Whether a part can be read next, without reading it. A text that breaks off in it does so
here. -/
def foresee (part : Parse α) : Parse Bool := do
  match part (← get) with
  | .ok _ => pure true
  | .error (.settled fault) => throw (.settled fault)
  | .error (.found _ _ _) => pure false

end Parse

open Parse

def constants : List (Text × Setting) :=
  [("True", .bool true), ("False", .bool false), ("None", .null)]

/-- The words that are no names. -/
def keywords : List String :=
  ["False", "None", "True", "and", "as", "assert", "async", "await", "break", "class", "continue",
    "def", "del", "elif", "else", "except", "finally", "for", "from", "global", "if", "import",
    "in", "is", "lambda", "nonlocal", "not", "or", "pass", "raise", "return", "try", "while",
    "with", "yield"]

def isKeyword (word : Text) : Bool := keywords.any (·.toList = word)

/-- Joins two neighbours that are both texts or both bytes. -/
def joined (first second : Setting) : Parse Setting :=
  match first, second with
  | .text s, .text t => pure (.text (s ++ t))
  | .bytes s, .bytes t => pure (.bytes (s ++ t))
  | _, _ => do slip "cannot mix bytes and nonbytes literals" (← peek).line

/-- Reads the texts or bytes that stand next to each other. All of them are found before any is
looked into. The first argument bounds how many there are. -/
def quotes : Nat → Parse (List (Placed (Except QuoteFault Setting)))
  | 0 => pure []
  | bound + 1 => do
      match ← peek with
      | ⟨.quote value, line⟩ =>
          skip
          pure (⟨value, line⟩ :: (← quotes bound))
      | _ => pure []

/-- Neighbouring texts are one text, and neighbouring bytes one sequence. -/
def joinQuotes (known : Option Setting) :
    List (Placed (Except QuoteFault Setting)) → Parse Setting
  | [] => pure (known.getD (.text []))
  | ⟨.error (.here message), line⟩ :: _ => slip message line
  | ⟨.error (.behind message), _⟩ :: _ => do slip message (← peek).line
  | ⟨.ok value, _⟩ :: rest => do
      let all ← match known with
        | none => pure value
        | some before => joined before value
      joinQuotes (some all) rest

/-- What an expression is called where it cannot be given a value. -/
def kindOf : Expression → Text
  | .value (.bool true) => "True"
  | .value (.bool false) => "False"
  | .value .null => "None"
  | .value _ => "literal"
  | .dict _ => "dict literal"
  | .set _ => "set display"
  | .signed _ _ => "expression"
  | .quotient _ _ => "expression"
  | .name _ => "name"
  | .list _ => "list"
  | .tuple _ => "tuple"

/-- Whether an equals sign after an expression is taken for a comparison. -/
def mayCompare : Expression → Bool
  | .list _ | .tuple _ | .value (.bool _) | .value .null => false
  | _ => true

/-- The report of an equals sign after an item in brackets. -/
def equalsSlip (item : Expression) (line : Nat) : Parse α :=
  match item with
  | .name _ => slip "invalid syntax. Maybe you meant '==' or ':=' instead of '='?" line
  | _ => slip ("cannot assign to " ++ kindOf item ++
      " here. Maybe you meant '==' instead of '='?") line

mutual

/-- Reads an expression: operands with division signs between them. The first argument bounds the
parts still to be read. -/
def expression : Nat → Parse Expression
  | 0 => invalid
  | bound + 1 => do quotients bound (← operand bound)

/-- Reads the divisors after an operand. -/
def quotients : Nat → Expression → Parse Expression
  | 0, _ => invalid
  | bound + 1, first => do
      if ← skipIf "/" then quotients bound (.quotient first (← operand bound))
      else pure first

def operand : Nat → Parse Expression
  | 0 => invalid
  | bound + 1 => do
      let next ← peek
      match next.item with
      | .quote _ =>
          let all ← quotes (bound + 1)
          pure (.value (← joinQuotes none all))
      | .number value =>
          skip
          match value with
          | .ok s => pure (.value s)
          | .error message => throw (.found message next.line next.line)
      | .name word =>
          match constants.lookup word with
          | some s =>
              skip
              pure (.value s)
          | none =>
              if isKeyword word then invalid
              else
                skip
                pure (.name (Text.normalForm word))
      | .symbol ['-'] =>
          skip
          pure (.signed '-' (← operand bound))
      | .symbol ['+'] =>
          skip
          pure (.signed '+' (← operand bound))
      | .symbol ['['] =>
          skip
          pure (.list (← items bound "]").1)
      | .symbol ['('] =>
          skip
          match ← items bound ")" with
          | ([single], false) => pure single
          | (several, _) => pure (.tuple several)
      | .symbol ['\x7b'] =>
          skip
          braces bound
      | _ => invalid

/-- Reads an item in brackets, which another has to be parted from. -/
def item : Nat → Parse Expression
  | 0 => invalid
  | bound + 1 => do
      let ahead := (← get).take 2
      let line := (← peek).line
      let first ← expression bound
      let isNamed : Bool := match ahead with
        | [⟨.name word, _⟩, ⟨.quote _, _⟩] => !isKeyword word
        | _ => false
      if !isNamed && (← foresee (expression bound *> peek)) then
        let _ ← expression bound
        slip "invalid syntax. Perhaps you forgot a comma?" line
      pure first

/-- Reads an item that an equals sign may follow by mistake. -/
def itemNotEqual : Nat → Parse Expression
  | 0 => invalid
  | bound + 1 => do
      let line := (← peek).line
      let first ← item bound
      if (← nextIs "=") && mayCompare first then
        let start ← get
        skip
        if ← foresee (expression bound *> peek) then
          let _ ← expression bound
          if !(← nextIs "=") && !(← nextIs ":=") then equalsSlip first line
        set start
      pure first

/-- Reads items up to a closing bracket, and tells whether a comma came after the last one. -/
def items : Nat → String → Parse (List Expression × Bool)
  | 0, _ => invalid
  | bound + 1, closer => do
      if ← skipIf closer then pure ([], true)
      else
        let first ← itemNotEqual bound
        if ← skipIf "," then
          let (others, _) ← items bound closer
          pure (first :: others, true)
        else
          expect closer
          pure ([first], false)

/-- Reads what is between braces: entries of a mapping, or items of a set. -/
def braces : Nat → Parse Expression
  | 0 => invalid
  | bound + 1 => do
      if ← skipIf "\x7d" then pure (.dict [])
      else
        let first ← itemNotEqual bound
        if ← nextIs ":" then
          let value ← entryValue bound
          pure (.dict ((first, value) :: (← entries bound)))
        else if ← skipIf "," then pure (.set (first :: (← items bound "\x7d").1))
        else
          expect "\x7d"
          pure (.set [first])

/-- Reads the colon of an entry and what comes after it. -/
def entryValue : Nat → Parse Expression
  | 0 => invalid
  | bound + 1 => do
      let line := (← peek).line
      skip
      if (← nextIs ",") || (← nextIs "\x7d") then
        slip "expression expected after dictionary key and ':'" line
      item bound

/-- Reads the entries of a mapping after one that has been read. -/
def entries : Nat → Parse (List (Expression × Expression))
  | 0 => invalid
  | bound + 1 => do
      if ← skipIf "\x7d" then pure []
      else
        expect ","
        if ← skipIf "\x7d" then pure []
        else
          let line := (← peek).line
          let key ← expression bound
          if !(← nextIs ":") then slip "':' expected after dictionary key" line
          let value ← entryValue bound
          pure ((key, value) :: (← entries bound))

end

/-- Reads an expression outside brackets. If another follows, the text may break off in it. -/
def outerExpression (bound : Nat) : Parse Expression := do
  let found ← expression bound
  let _ ← foresee (expression bound *> peek)
  pure found

/-- Reads an expression, or several with commas, which are a tuple. -/
def expressions (bound : Nat) : Parse Expression := do
  let first ← outerExpression bound
  if ← nextIs "," then pure (.tuple (first :: (← more bound))) else pure first
where
  /-- Reads the expressions after commas, the last of which may be followed by nothing. -/
  more : Nat → Parse (List Expression)
    | 0 => invalid
    | bound + 1 => do
        if ← skipIf "," then
          match (← peek).item with
          | .lineEnd | .fileEnd | .symbol ['='] | .symbol [';'] => pure []
          | _ =>
              let next ← outerExpression bound
              pure (next :: (← more bound))
        else pure []

/-- Reads a word that is no keyword as it is written. What it names is its normal form. -/
def plainName : Parse Text := do
  match (← peek).item with
  | .name word =>
      if isKeyword word then invalid
      else
        skip
        pure (Text.normalForm word)
  | _ => invalid

/-- Reads a keyword if it comes next, and tells whether it did. -/
def skipWord (word : String) : Parse Bool := do
  match (← peek).item with
  | .name found =>
      if found = word.toList then
        skip
        pure true
      else pure false
  | _ => pure false

/-- Reads names with points between them, and gives the first. -/
def dottedName : Nat → Parse Text
  | 0 => invalid
  | bound + 1 => do
      let first ← plainName
      if ← skipIf "." then
        let _ ← dottedName bound
      pure first

/-- Reads the name that something imported is given instead of its own. -/
def newName : Parse Unit := do
  if ← skipWord "as" then
    let _ ← plainName
  pure ()

/-- Reads the modules of an import, and gives the first. -/
def modules : Nat → Parse Text
  | 0 => invalid
  | bound + 1 => do
      let first ← dottedName bound
      newName
      if ← skipIf "," then
        let _ ← modules bound
      pure first

/-- Reads the names that are imported from a module. -/
def importedNames (closer : Option String) : Nat → Parse Unit
  | 0 => invalid
  | bound + 1 => do
      let _ ← plainName
      newName
      if ← skipIf "," then
        match closer, (← peek).item with
        | none, .lineEnd =>
            slip "trailing comma not allowed without surrounding parentheses" (← peek).line
        | none, _ => importedNames closer bound
        | some mark, _ => if !(← skipIf mark) then importedNames closer bound
      else
        match closer with
        | none => pure ()
        | some mark => expect mark

/-- Reads the points before the name of a module, and tells whether there are any. -/
def leadingPoints : Nat → Parse Bool
  | 0 => invalid
  | bound + 1 => do
      if (← skipIf ".") || (← skipIf "...") then
        let _ ← leadingPoints bound
        pure true
      else pure false

/-- Reads the rest of an import of parts of a module. -/
def importFrom (bound : Nat) : Parse Statement := do
  let isSibling ← leadingPoints bound
  let statement ←
    if isSibling && (← nextWordIs "import") then pure Statement.importSibling
    else
      let module ← dottedName bound
      pure (if isSibling then .importSibling else .importModule module)
  if !(← skipWord "import") then invalid
  if ← skipIf "*" then pure statement
  else if ← skipIf "(" then
    importedNames (some ")") bound
    pure statement
  else
    importedNames none bound
    pure statement
where
  nextWordIs (word : String) : Parse Bool := do
    match (← peek).item with
    | .name found => pure (found = word.toList)
    | _ => pure false

/-- The names of the report of a system error. -/
def systemErrors : List String := ["OSError", "IOError", "EnvironmentError"]

/-- Reads the rest of the report of a system error. -/
def systemError (bound : Nat) : Parse Statement := do
  let word ← plainName
  if !systemErrors.any (·.toList = word) then invalid
  else if ← skipIf "(" then pure (.systemError (← items bound ")").1)
  else pure (.systemError [])

/-- The report of what cannot be given a value. `isOnly` tells that there is one equals sign. -/
def targetSlip (isOnly : Bool) (line : Nat) : Expression → Parse α
  | .list (first :: _) | .tuple (first :: _) => slip ("cannot assign to " ++ kindOf first) line
  | target =>
      let advice : Text :=
        if isOnly && mayCompare target then " here. Maybe you meant '==' instead of '='?" else []
      slip ("cannot assign to " ++ kindOf target ++ advice) line

/-- The report of what cannot be annotated. -/
def annotationSlip : Expression → Text
  | .list _ => "only single target (not list) can be annotated".toList
  | .tuple _ => "only single target (not tuple) can be annotated".toList
  | _ => "illegal target for annotation".toList

/-- Reads what comes after equals signs, the last of which is the value. -/
def assigned : Nat → Parse (List Expression)
  | 0 => invalid
  | bound + 1 => do
      if ← skipIf "=" then
        let next ← expressions bound
        pure (next :: (← assigned bound))
      else pure []

/-- Reads an assignment, or an expression alone. -/
def assignment (bound : Nat) : Parse Statement := do
  let line := (← peek).line
  let first ← expressions bound
  if ← skipIf ":" then
    match first with
    | .name name =>
        let type ← expression bound
        match ← assigned bound with
        | [] => pure (.annotate name none type)
        | [value] => pure (.annotate name (some value) type)
        | _ => invalid
    | _ =>
        let _ ← expression bound
        slip (annotationSlip first) line
  else
    match ← assigned bound with
    | [] => pure (.evaluate first)
    | others =>
        let targets := first :: others.dropLast
        let names := targets.filterMap fun target =>
          match target with
          | .name name => some name
          | _ => none
        match targets.find? fun target => match target with | .name _ => false | _ => true with
        | some target => targetSlip (others.length = 1) line target
        | none => pure (.assign names (others.getLast?.getD first))

/-- Reads one statement. -/
def statement (bound : Nat) : Parse Statement := do
  if ← skipWord "import" then pure (.importModule (← modules bound))
  else if ← skipWord "from" then importFrom bound
  else if ← skipWord "raise" then systemError bound
  else if ← skipWord "pass" then pure .nothing
  else assignment bound

/-- Reads the statements of a template. The first argument bounds how many there are. -/
def statements (size : Nat) : Nat → Parse (List Statement)
  | 0 => invalid
  | bound + 1 => do
      let next ← peek
      match next.item with
      | .fileEnd => pure []
      | .indent => throw (.settled (.indented next.line))
      | _ =>
          let first ← statement size
          if ← skipIf ";" then
            match (← peek).item with
            | .lineEnd => skip
            | _ => pure ()
          else
            match (← peek).item with
            | .lineEnd => skip
            | _ => invalid
          pure (first :: (← statements size bound))

/-- What is reported of a fault of the form. What can be no token is reported before it, wherever it
stands, and so is a bracket that was opened on an earlier line than the last token looked at. -/
def Slip.report (all : Tokens) : Slip → Fault
  | settled fault => fault
  | found message line reach =>
      match all.getLast? with
      | some ⟨.broken (.faulty fault), _⟩ => fault
      | some ⟨.broken (.undecodable report _), _⟩ => .undecodable report
      | some ⟨.broken (.early _ (some bracket)), _⟩ =>
          if bracket.line < reach then neverClosed bracket else .malformed message line
      | _ => .malformed message line

/-- The statements of a text. -/
def statementsOf (source : Bytes) : Except Fault (List Statement) :=
  let all := tokens source
  let size := 4 * all.length + 4
  match statements size size all with
  | .ok (found, _) => .ok found
  | .error slip => .error (slip.report all)

end KconfigReference.Assignment
