import KconfigReference.Number.Decimal
import KconfigReference.Setting.Basic

/-!
Numbers in templates of assignments: integers of four bases and numbers with a point or an exponent.
A single underscore may stand between two digits, and after the mark of a base.
-/

namespace KconfigReference.Assignment

/-- The digits at the beginning of a text without the underscores between them, and the rest; none
if an underscore is not between digits. -/
def digitGroups? (isDigit : Char → Bool) (t : Text) : Option (Text × Text) :=
  let run := t.takeWhile fun c => isDigit c || c = '_'
  let groups := Text.pieces (· = '_') run
  if groups.contains [] then none else some (groups.flatten, t.drop run.length)

def invalidLiteral (kind : Text) : Text := "invalid " ++ kind ++ " literal"

/-- The words that may follow a number without a blank. -/
def followers : List String := ["and", "else", "for", "if", "in", "is", "or"]

/-- A number has to end before the rest of a text: no letter may follow that is not the beginning of
one of some words. -/
def endNumber (kind : Text) (value : α) (rest : Text) : Except Text (α × Text) :=
  match rest with
  | [] => .ok (value, rest)
  | c :: _ =>
      if (c.isAlphanum || c = '_') && !followers.any (·.toList.isPrefixOf rest) then
        .error (invalidLiteral kind)
      else .ok (value, rest)

/-- A number after the mark of its base. -/
def basedNumber (base : Nat) (kind : Text) (t : Text) : Except Text (Setting × Text) := do
  let isDigit (c : Char) : Bool := (Text.hexDigit? c).any (· < base)
  let wrongDigit (rest : Text) : Except Text Unit :=
    match rest with
    | c :: _ =>
        if Text.isAsciiDigit c then
          .error ("invalid digit '" ++ [c] ++ "' in " ++ kind ++ " literal")
        else .ok ()
    | [] => .ok ()
  let body := if t.head? = some '_' then t.drop 1 else t
  match digitGroups? isDigit body with
  | some (digits, rest) =>
      wrongDigit rest
      let value := digits.foldl (fun n c => n * base + (Text.hexDigit? c).getD 0) 0
      endNumber kind (.int value) rest
  | none =>
      let run := body.takeWhile fun c => isDigit c || c = '_'
      let isRepeated := (Text.pieces (· = '_') run).dropLast.contains []
      if !isRepeated then wrongDigit (body.drop run.length)
      throw (invalidLiteral kind)

def tooManyDigits (count : Nat) : Text :=
  "Exceeds the limit (" ++ Text.ofNat Text.digitLimit ++
    " digits) for integer string conversion: value has " ++ Text.ofNat count ++
    " digits; use sys.set_int_max_str_digits() to increase the limit - Consider hexadecimal for " ++
    "huge integer literals to avoid decimal conversion limits."

/-- The exponent that a text begins with, or zero where none does, and the rest. -/
def exponentPart (t : Text) : Except Text (Option Int × Text) :=
  match t with
  | e :: more =>
      if e = 'e' || e = 'E' then
        let (signed, negative, digits) := match more with
          | '-' :: digits => (true, true, digits)
          | '+' :: digits => (true, false, digits)
          | digits => (false, false, digits)
        if digits.head?.any Text.isAsciiDigit then
          match digitGroups? Text.isAsciiDigit digits with
          | some (digits, rest) =>
              let value : Int := Text.decimalValue digits
              .ok (some (if negative then -value else value), rest)
          | none => .error (invalidLiteral "decimal")
        else if signed then .error (invalidLiteral "decimal")
        else .ok (none, t)
      else .ok (none, t)
  | [] => .ok (none, [])

def leadingZeros : Text :=
  "leading zeros in decimal integer literals are not permitted; " ++
    "use an 0o prefix for octal integers"

/-- A number to the base ten. An integer other than zero does not begin with zero. -/
def decimalNumber (t : Text) : Except Text (Except Text Setting × Text) := do
  let groups (t : Text) : Except Text (Text × Text) :=
    if t.head?.any Text.isAsciiDigit then
      match digitGroups? Text.isAsciiDigit t with
      | some found => .ok found
      | none => .error (invalidLiteral "decimal")
    else .ok ([], t)
  let (whole, afterWhole) ← groups t
  let (hasPoint, places, afterPlaces) ← match afterWhole with
    | '.' :: more => do
        let (places, rest) ← groups more
        pure (true, places, rest)
    | rest => pure (false, [], rest)
  let (power, rest) ← exponentPart afterPlaces
  let isReal := hasPoint || power.isSome
  if !isReal && whole.head? = some '0' && whole.any (· ≠ '0') then throw leadingZeros
  let value : Except Text Setting :=
    if isReal then
      .ok (.float (.ofDecimal false (Text.decimalValue (whole ++ places))
        (power.getD 0 - places.length)))
    else if Text.digitLimit < whole.length && whole.any (· ≠ '0') then
      .error (tooManyDigits whole.length)
    else .ok (.int (Text.decimalValue whole))
  endNumber "decimal" value rest

/-- Whether a number begins here: with a digit, or with a point and a digit. -/
def beginsNumber : Text → Bool
  | '.' :: c :: _ => Text.isAsciiDigit c
  | c :: _ => Text.isAsciiDigit c
  | [] => false

/-- The number at the beginning of a text, and the rest. A number may be well formed and too
long. -/
def number (t : Text) : Except Text (Except Text Setting × Text) :=
  let based (base : Nat) (kind : Text) (digits : Text) :=
    (basedNumber base kind digits).map fun (value, rest) => (.ok value, rest)
  match t with
  | '0' :: mark :: digits =>
      if mark = 'x' || mark = 'X' then based 16 "hexadecimal" digits
      else if mark = 'o' || mark = 'O' then based 8 "octal" digits
      else if mark = 'b' || mark = 'B' then based 2 "binary" digits
      else decimalNumber t
  | t => decimalNumber t

end KconfigReference.Assignment
