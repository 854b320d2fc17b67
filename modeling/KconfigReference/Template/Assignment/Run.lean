import KconfigReference.Template.Assignment.Statement

/-!
What the statements of a template of assignments do: they give names to values, or they stop. All
statements are read before the first takes effect.
-/

namespace KconfigReference.Assignment

/-- The names given so far, the latest first. -/
abbrev Names := List (Text × Setting)

def signed (sign : Char) (value : Setting) : Except Fault Setting :=
  match value.integer?, value with
  | _, .float x => .ok (.float (if sign = '-' then x.negate else x))
  | some n, _ => .ok (.int (if sign = '-' then -n else n))
  | none, _ => .error (.noSign sign (typeName value))

/-- A number as a real one. -/
def real? : Setting → Option (Except Fault Binary64)
  | .float x => some (.ok x)
  | .int n =>
      match Binary64.ofInt n with
      | .infinite _ => some (.error .integerTooLarge)
      | x => some (.ok x)
  | .bool b => some (.ok (Binary64.ofInt (if b then 1 else 0)))
  | _ => none

/-- The quotient of integers, rounded once. -/
def integerQuotient (a b : Int) : Except Fault Setting :=
  if b = 0 then .error (.divisionByZero false)
  else
    match Binary64.ofRatio ((a < 0) != (b < 0)) a.natAbs b.natAbs with
    | .infinite _ => .error .quotientTooLarge
    | x => .ok (.float (if a = 0 then .zero false else x))

def quotient (a b : Setting) : Except Fault Setting :=
  let isReal : Setting → Bool
    | .float _ => true
    | _ => false
  match isReal a || isReal b, real? a, real? b with
  | true, some x, some y => do
      let (x, y) := (← x, ← y)
      if y.isZero then throw (.divisionByZero true) else pure (.float (x.div y))
  | false, some _, some _ => integerQuotient (a.integer?.getD 0) (b.integer?.getD 0)
  | _, _, _ => .error (.noQuotient (typeName a) (typeName b))

/-- The type that keeps a value from being a key, if one does. -/
def unhashable? : Setting → Option Text
  | .tuple items => items.findSome? fun item =>
      match item with
      | .list _ | .dict _ | .set _ => some (typeName item)
      | _ => none
  | .list _ => some "list"
  | .dict _ => some "dict"
  | .set _ => some "set"
  | _ => none

/-- Puts entries into a mapping, one after the other. -/
def mappingOf (entries : List (Setting × Setting)) : Except Fault (List (Setting × Setting)) :=
  entries.foldlM (fun known (key, value) =>
    match unhashable? key with
    | some type => .error (.unhashable type)
    | none => .ok (Setting.insert key value known)) []

mutual

def evaluate (names : Names) : Expression → Except Fault Setting
  | .value s => .ok s
  | .name n =>
      match names.lookup n with
      | some s => .ok s
      | none => .error (.nameNotDefined n)
  | .list es => (evaluateAll names es).map .list
  | .tuple es => (evaluateAll names es).map .tuple
  | .set es => do
      let items ← evaluateAll names es
      pure (.set ((← mappingOf (items.map fun item => (item, .null))).map Prod.fst))
  | .dict es => do pure (.dict (← mappingOf (← evaluateEntries names es)))
  | .signed sign e => do signed sign (← evaluate names e)
  | .quotient a b => do quotient (← evaluate names a) (← evaluate names b)

def evaluateAll (names : Names) : List Expression → Except Fault (List Setting)
  | [] => .ok []
  | e :: rest => do pure ((← evaluate names e) :: (← evaluateAll names rest))

def evaluateEntries (names : Names) :
    List (Expression × Expression) → Except Fault (List (Setting × Setting))
  | [] => .ok []
  | (key, value) :: rest => do
      let first := (← evaluate names key, ← evaluate names value)
      pure (first :: (← evaluateEntries names rest))

end

/-- The names of types that a remark may use. What they stand for does not matter. -/
def typeNames : Names :=
  ["bool", "bytes", "dict", "float", "int", "list", "object", "set", "str", "tuple"].map
    fun name => (name.toList, .null)

/-- Runs the statements on the names given so far. -/
def run (names : Names) : List Statement → Except Fault Names
  | [] => .ok names
  | .assign given e :: rest => do
      let value ← evaluate names e
      run (given.foldl (fun names name => (name, value) :: names) names) rest
  | .annotate name e type :: rest => do
      let names ← match e with
        | some e => do pure ((name, ← evaluate names e) :: names)
        | none => pure names
      let _ ← evaluate (names ++ typeNames) type
      run names rest
  | .evaluate e :: rest => do
      let _ ← evaluate names e
      run names rest
  | .importModule module :: _ => .error (.moduleNotFound module)
  | .importSibling :: _ => .error .noPackage
  | .systemError arguments :: _ => do throw (.system (← evaluateAll names arguments))
  | .nothing :: rest => run names rest

/-- The names that a template gives, the latest first. -/
def read (content : Bytes) : Except Fault Names := do
  run [] (← statementsOf (← sourceOf content))

end KconfigReference.Assignment
