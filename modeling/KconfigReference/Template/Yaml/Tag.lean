import KconfigReference.Template.Yaml.Stamp

/-!
Tags of nodes, and the tag that a plain scalar has by its form alone.
-/

namespace KconfigReference.Yaml

inductive Tag where
  | null
  | bool
  | int
  | float
  | binary
  | timestamp
  | text
  | sequence
  | mapping
  | set
  | orderedMapping
  | pairs
  /-- The key `<<`, whose value is merged into the mapping. -/
  | merge
  /-- The key `=`, whose value stands for the mapping where a scalar is needed. -/
  | value
  /-- A tag for which there is no type. -/
  | unknown
deriving Repr, DecidableEq

namespace Tag

/-- What the tags of the format itself begin with. -/
def standard : Text := "tag:yaml.org,2002:"

def named : List (Text × Tag) :=
  [("null", null), ("bool", bool), ("int", int), ("float", float), ("binary", binary),
    ("timestamp", timestamp), ("str", text), ("seq", sequence), ("map", mapping), ("set", set),
    ("omap", orderedMapping), ("pairs", pairs), ("merge", merge), ("value", value)]

/-- The tag of a full name. -/
def ofName (name : Text) : Tag :=
  ((named.find? fun (suffix, _) => standard ++ suffix = name).map Prod.snd).getD unknown

def nullWords : List Text := ["", "~", "null", "Null", "NULL"]

def boolWords : List Text :=
  ["yes", "Yes", "YES", "no", "No", "NO", "true", "True", "TRUE", "false", "False", "FALSE",
    "on", "On", "ON", "off", "Off", "OFF"]

/-- A text without a sign that it may begin with. -/
def unsigned : Text → Text
  | '+' :: rest => rest
  | '-' :: rest => rest
  | rest => rest

def isGrouped (p : Char → Bool) (t : Text) : Bool := t.all fun c => p c || c = '_'

/-- Digits and underscores, beginning with a digit. -/
def isDigits (t : Text) : Bool :=
  t.head?.any Text.isAsciiDigit && isGrouped Text.isAsciiDigit t

/-- Parts of a number to the base 60 after the first: one or two digits, below 60. -/
def isSixtieth (t : Text) : Bool :=
  match t with
  | [d] => Text.isAsciiDigit d
  | [t, d] => '0' ≤ t && t ≤ '5' && Text.isAsciiDigit d
  | _ => false

def isInteger (t : Text) : Bool :=
  match unsigned t with
  | ['0'] => true
  | '0' :: 'b' :: digits => digits ≠ [] && isGrouped (fun c => c = '0' || c = '1') digits
  | '0' :: 'x' :: digits => digits ≠ [] && isGrouped (fun c => (Text.hexDigit? c).isSome) digits
  | '0' :: digits => isGrouped (fun c => '0' ≤ c && c ≤ '7') digits
  | body =>
      match Text.pieces (· = ':') body with
      | [digits] => isDigits digits
      | digits :: more => isDigits digits && more.all isSixtieth
      | [] => false

/-- Nothing, or an exponent with a sign. -/
def isExponent : Text → Bool
  | [] => true
  | e :: sign :: digits =>
      (e = 'e' || e = 'E') && (sign = '+' || sign = '-') && digits ≠ [] &&
        digits.all Text.isAsciiDigit
  | _ => false

/-- Digits after the point and perhaps an exponent. -/
def isPlaces (t : Text) : Bool :=
  isExponent (t.dropWhile fun c => Text.isAsciiDigit c || c = '_')

/-- A number with a point. A number that begins with the point has no sign and a digit next, and one
to the base 60 has no exponent. -/
def isFloat (t : Text) : Bool :=
  let body := unsigned t
  let infinite : Bool := ([".inf", ".Inf", ".INF"] : List Text).contains body
  let notNumber : Bool := ([".nan", ".NaN", ".NAN"] : List Text).contains t
  let short := match t with
    | '.' :: digit :: rest => Text.isAsciiDigit digit && isPlaces rest
    | _ => false
  let whole := body.takeWhile (· ≠ '.')
  let long := match body.drop whole.length with
    | _ :: places =>
        match Text.pieces (· = ':') whole with
        | [digits] => isDigits digits && isPlaces places
        | digits :: more =>
            isDigits digits && more.all isSixtieth && isGrouped Text.isAsciiDigit places
        | [] => false
    | [] => false
  infinite || notNumber || short || long

/-- The tag that a text has by its form. -/
def ofForm (t : Text) : Tag :=
  if boolWords.contains t then bool
  else if isFloat t then float
  else if isInteger t then int
  else if t = "<<" then merge
  else if nullWords.contains t then null
  else if Stamp.isEvident t then timestamp
  else if t = "=" then value
  else if t = "!" || t = "&" || t = "*" then unknown
  else text

/-- The tag of a scalar without a tag. A line break at the end does not count, unless it is all. -/
def ofPlain (t : Text) : Tag := if t = "\n" then text else ofForm (withoutFinalBreak t)

/-- Tags of values that are written as one text. -/
def isOfScalar : Tag → Bool
  | null | bool | int | float | binary | timestamp | text => true
  | _ => false

example : ofPlain "1_000" = int := by decide
example : ofPlain "190:20:30" = int := by decide
example : ofPlain "1e3" = text := by decide
example : ofPlain "1.5e+3" = float := by decide
example : ofPlain "-.5" = text := by decide
example : ofPlain "08" = text := by decide

end Tag

end KconfigReference.Yaml
