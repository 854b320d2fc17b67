import KconfigReference.Number.Decimal
import KconfigReference.Template.Yaml.Tag
import KconfigReference.Text.Base64

/-!
Values of scalars. A tag may be given to any text, so each type says what a text that is none of its
values comes to.
-/

namespace KconfigReference.Yaml

/-- Whether a number is negative, and its text without the sign. -/
def splitSign (t : Text) : Bool × Text :=
  match t with
  | '-' :: rest => (true, rest)
  | '+' :: rest => (false, rest)
  | rest => (false, rest)

def withoutUnderscores (t : Text) : Text := t.filter (· ≠ '_')

/-- A run of digits of a base as an integer: white space may stand around it, and a sign and the
mark of the base before it. -/
def integerOf (base : Nat) (marks : List Char) (t : Text) : Except Fault Int :=
  let (negative, body) := splitSign (Text.strip t)
  let digits := match body with
    | zero :: mark :: rest =>
        if Text.digitValue? zero = some 0 && marks.contains mark then rest else body
    | _ => body
  match Text.digits? base digits with
  | some n => .ok (if negative then -(n : Int) else n)
  | none => .error (.misused .badValue)

def decimalInteger (t : Text) : Except Fault Int :=
  if Text.digitLimit < (t.filter Text.isDigit).length then .error (.misused .badValue)
  else integerOf 10 [] t

/-- An integer: binary after `0b`, hexadecimal after `0x`, octal after another zero, and with colons
to the base 60. Underscores do not count. -/
def integer (t : Text) : Except Fault Int := do
  let t := withoutUnderscores t
  if t = [] then throw (.misused .badIndex)
  let (negative, body) := splitSign t
  let magnitude ←
    match body with
    | [] => throw (.misused .badIndex)
    | ['0'] => pure 0
    | '0' :: 'b' :: digits => integerOf 2 ['b', 'B'] digits
    | '0' :: 'x' :: digits => integerOf 16 ['x', 'X'] digits
    | '0' :: _ => integerOf 8 ['o', 'O'] body
    | _ => do
        let parts ← (Text.pieces (· = ':') body).mapM decimalInteger
        pure (parts.foldl (fun value part => value * 60 + part) 0)
  pure (if negative then -magnitude else magnitude)

def realPart (t : Text) : Except Fault Binary64 :=
  match Binary64.read? t with
  | some x => .ok x
  | none => .error (.misused .badValue)

/-- The sum of the parts of a number to the base 60, the last one first; each step is rounded. -/
def sumSixtieths (parts : List Binary64) : Except Fault Binary64 :=
  (parts.zipIdx).foldlM (fun sum (part, place) =>
    match Binary64.ofInt (Nat.pow 60 place) with
    | .infinite _ => .error (.misused .overflow)
    | weight => .ok (sum.add (part.mul weight))) (.zero false)

/-- A number with a point as it is read: underscores and the case of letters do not count. -/
def realText (t : Text) : Text := (withoutUnderscores t).map Char.toLower

/-- Whether a text is the word for what is no number, with or without a sign. -/
def isNoNumber (t : Text) : Bool := (splitSign (realText t)).2 = ".nan"

/-- A number with a point, an infinity, or no number. -/
def real (t : Text) : Except Fault Binary64 := do
  if realText t = [] then throw (.misused .badIndex)
  let (negative, body) := splitSign (realText t)
  if isNoNumber t then pure .nan
  else
    let magnitude ←
      if body = ".inf" then pure (.infinite false)
      else
        match Text.pieces (· = ':') body with
        | [single] => realPart single
        | parts => do sumSixtieths (← parts.mapM realPart).reverse
    pure (if negative then magnitude.negate else magnitude)

def truth (t : Text) : Except Fault Bool :=
  let word := t.map Char.toLower
  if (["yes", "true", "on"] : List Text).contains word then .ok true
  else if (["no", "false", "off"] : List Text).contains word then .ok false
  else .error (.misused .badKey)

def binary (t : Text) : Except Fault Bytes :=
  if !t.all (·.toNat < 0x80) then .error .malformed
  else
    match Base64.decode? t with
    | some bytes => .ok bytes
    | none => .error .malformed

/-- A day or a time; a line break may end it. -/
def timestamp (t : Text) : Except Fault Setting :=
  match Stamp.read? (withoutFinalBreak t) with
  | none => .error (.misused .notText)
  | some stamp =>
      match stamp.setting? with
      | some value => .ok value
      | none => .error (.misused .badValue)

/-- The value of a text of characters with a tag of a scalar. -/
def plainValue (tag : Tag) (t : Text) : Except Fault Setting :=
  match tag with
  | .null => .ok .null
  | .bool => (truth t).map .bool
  | .int => (integer t).map .int
  | .float => (real t).map .float
  | .binary => (binary t).map .bytes
  | .timestamp => timestamp t
  | .text => .ok (.text t)
  | _ => .error .malformed

/-- The value of a text with a tag of a scalar. A half of a pair is a part of nothing but texts. -/
def scalarValue (tag : Tag) (t : CodeText) : Except Fault Setting :=
  match t.plain?, tag with
  | some plain, _ => plainValue tag plain
  | none, .null => .ok .null
  | none, .text => .ok (.text t)
  | none, .bool => .error (.misused .badKey)
  | none, .int => .error (.misused .badValue)
  | none, .float => .error (.misused .badValue)
  | none, .timestamp => .error (.misused .notText)
  | none, _ => .error .malformed

end KconfigReference.Yaml
