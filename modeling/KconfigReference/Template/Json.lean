import KconfigReference.Number.Decimal
import KconfigReference.Setting.Basic

/-!
Templates in JSON. Beyond the standard, `NaN`, `Infinity` and `-Infinity` are numbers; integers have
any size up to a limit on their digits, and of equal keys the last value counts. A fault names what
was expected and where: line and column from 1, and the character from 0.
-/

namespace KconfigReference.Json

inductive Fault where
  /-- What was expected or is wrong, and the index of the character there. -/
  | unexpected (message : Text) (index : Nat)
  /-- An integer with more digits than are read. -/
  | integerTooLong
deriving Repr, DecidableEq

/-- What is left to read, and the index of its first character. -/
structure Input where
  rest : Text
  index : Nat

def isSpace (c : Char) : Bool := c = ' ' || c = '\t' || c = '\n' || c = '\r'

namespace Input

def advance (input : Input) (n : Nat) : Input := ⟨input.rest.drop n, input.index + n⟩

def skipSpace (input : Input) : Input := input.advance (input.rest.takeWhile isSpace).length

/-- The input after a word, if it begins with it. -/
def after? (input : Input) (word : Text) : Option Input :=
  if word.isPrefixOf input.rest then some (input.advance word.length) else none

def expecting (input : Input) (message : Text) : Except Fault α :=
  .error (.unexpected message input.index)

end Input

/-- The character of a short escape. -/
def shortEscape? : Char → Option Char
  | '"' => some '"'
  | '\\' => some '\\'
  | '/' => some '/'
  | 'b' => some '\x08'
  | 'f' => some '\x0c'
  | 'n' => some '\n'
  | 'r' => some '\r'
  | 't' => some '\t'
  | _ => none

/-- The number of the four hexadecimal digits that a text begins with. -/
def fourDigits? (rest : Text) : Option Nat :=
  if (rest.take 4).length < 4 then none else Text.hexNumber? (rest.take 4)

/-- A character written as `\u` and four digits, with the four digits of a second half if both are
halves of a pair. The argument begins after the `u`, whose index is given; the result is the code
point and the number of characters read. -/
def unicodeEscape (rest : Text) (index : Nat) : Except Fault (CodePoint × Nat) :=
  let bad (index : Nat) : Except Fault (CodePoint × Nat) :=
    .error (.unexpected "Invalid \\uXXXX escape" index)
  -- the digits have to be followed by something
  if (rest.take 5).length ≤ 4 then bad index
  else
    match fourDigits? rest with
    | none => bad index
    | some high =>
        let second := rest.drop 4
        let isPair := 6 < (second.take 7).length && second.take 2 = ['\\', 'u']
        if 0xD800 ≤ high && high ≤ 0xDBFF && isPair then
          match fourDigits? (second.drop 2) with
          | none => bad (index + 6)
          | some low =>
              if 0xDC00 ≤ low && low ≤ 0xDFFF then
                .ok (.char (Char.ofNat (0x10000 + (high - 0xD800) * 0x400 + (low - 0xDC00))), 10)
              else .ok (.ofNat high, 4)
        else .ok (.ofNat high, 4)

/-- The characters of a string up to its closing quotation mark; `opening` is the index of the
opening one. -/
def stringBody (opening : Nat) (input : Input) : Except Fault (CodeText × Input) :=
  match _hrest : input.rest with
  | [] => .error (.unexpected "Unterminated string starting at" opening)
  | '"' :: _ => .ok ([], input.advance 1)
  | ['\\'] => .error (.unexpected "Unterminated string starting at" opening)
  | '\\' :: 'u' :: rest =>
      match unicodeEscape rest (input.index + 1) with
      | .error e => .error e
      | .ok (c, length) =>
          (stringBody opening (input.advance (2 + length))).map fun (text, after) =>
            (c :: text, after)
  | '\\' :: letter :: _ =>
      match shortEscape? letter with
      | none => .error (.unexpected "Invalid \\escape" input.index)
      | some c =>
          (stringBody opening (input.advance 2)).map fun (text, after) => (.char c :: text, after)
  | c :: _ =>
      if c.toNat < 0x20 then .error (.unexpected "Invalid control character at" input.index)
      else (stringBody opening (input.advance 1)).map fun (text, after) => (.char c :: text, after)
termination_by input.rest.length
decreasing_by
  all_goals simp only [Input.advance, _hrest, List.length_drop, List.length_cons]; omega

/-- Integer digits: a single zero, or digits that do not begin with one. -/
def integerDigits (rest : Text) : Text :=
  match rest with
  | '0' :: _ => ['0']
  | _ => rest.takeWhile Text.isAsciiDigit

/-- A point and the digits after it, if there is a digit. -/
def fraction (rest : Text) : Text :=
  match rest with
  | '.' :: more => more.takeWhile Text.isAsciiDigit
  | _ => []

def number (input : Input) : Except Fault (Setting × Input) :=
  let negative := input.rest.head? = some '-'
  let unsigned := if negative then input.advance 1 else input
  let whole := integerDigits unsigned.rest
  if whole = [] then input.expecting "Expecting value"
  else
    let afterWhole := unsigned.advance whole.length
    let part := fraction afterWhole.rest
    let afterPart := if part = [] then afterWhole else afterWhole.advance (part.length + 1)
    match Text.exponent? afterPart.rest with
    | none =>
        if part = [] then
          if Text.digitLimit < whole.length then .error .integerTooLong
          else
            let value : Int := Text.decimalValue whole
            .ok (.int (if negative then -value else value), afterWhole)
        else
          .ok (.float (.ofDecimal negative (Text.decimalValue (whole ++ part)) (-part.length)),
            afterPart)
    | some (power, length) =>
        .ok (.float (.ofDecimal negative (Text.decimalValue (whole ++ part)) (power - part.length)),
          afterPart.advance length)

/-- The words that are values. -/
def words : List (Text × Setting) :=
  [("null", .null), ("true", .bool true), ("false", .bool false), ("NaN", .float .nan),
    ("Infinity", .float (.infinite false)), ("-Infinity", .float (.infinite true))]

mutual

/-- Reads one value. The first argument bounds the values still to be read. -/
def value : Nat → Input → Except Fault (Setting × Input)
  | 0, input => input.expecting "Expecting value"
  | bound + 1, input =>
      match input.rest with
      | '"' :: _ =>
          (stringBody input.index (input.advance 1)).map fun (text, after) => (.text text, after)
      | '\x7b' :: _ =>
          let inner := (input.advance 1).skipSpace
          match inner.rest with
          | '\x7d' :: _ => .ok (.dict [], inner.advance 1)
          | _ => (members bound [] inner).map fun (entries, after) => (.dict entries, after)
      | '[' :: _ =>
          let inner := (input.advance 1).skipSpace
          match inner.rest with
          | ']' :: _ => .ok (.list [], inner.advance 1)
          | _ => (items bound inner).map fun (all, after) => (.list all, after)
      | _ =>
          match words.findSome? fun (word, v) => (input.after? word).map (v, ·) with
          | some found => .ok found
          | none => number input

/-- Reads the values of a list up to its closing bracket. -/
def items : Nat → Input → Except Fault (List Setting × Input)
  | 0, input => input.expecting "Expecting value"
  | bound + 1, input => do
      let (first, after) ← value bound input
      let next := after.skipSpace
      match next.rest with
      | ']' :: _ => pure ([first], next.advance 1)
      | ',' :: _ =>
          let (more, after) ← items bound (next.advance 1).skipSpace
          pure (first :: more, after)
      | _ => next.expecting "Expecting ',' delimiter"

/-- Reads the entries of a mapping up to its closing brace, after those read before. -/
def members : Nat → List (Setting × Setting) → Input →
    Except Fault (List (Setting × Setting) × Input)
  | 0, _, input => input.expecting "Expecting value"
  | bound + 1, entries, input => do
      match input.rest with
      | '"' :: _ =>
          let (key, after) ← stringBody input.index (input.advance 1)
          let colon := after.skipSpace
          match colon.rest with
          | ':' :: _ =>
              let (v, after) ← value bound (colon.advance 1).skipSpace
              let entries := Setting.insert (.text key) v entries
              let next := after.skipSpace
              match next.rest with
              | '\x7d' :: _ => pure (entries, next.advance 1)
              | ',' :: _ => members bound entries (next.advance 1).skipSpace
              | _ => next.expecting "Expecting ',' delimiter"
          | _ => colon.expecting "Expecting ':' delimiter"
      | _ => input.expecting "Expecting property name enclosed in double quotes"

end

/-- Reads a text that is one value with white space around it. -/
def read (text : Text) : Except Fault Setting :=
  if text.head? = some '\uFEFF' then
    .error (.unexpected "Unexpected UTF-8 BOM (decode using utf-8-sig)" 0)
  else do
    let (v, after) ← value (2 * text.length + 2) (Input.mk text 0).skipSpace
    let trailing := after.skipSpace
    if trailing.rest = [] then pure v else trailing.expecting "Extra data"

/-- A fault as it is reported of a text: with line, column and character. -/
def describe (text message : Text) (index : Nat) : Text :=
  let before := text.take index
  let line := (before.filter (· = '\n')).length + 1
  let column := (before.reverse.takeWhile (· ≠ '\n')).length + 1
  message ++ ": line " ++ Text.ofNat line ++ " column " ++ Text.ofNat column ++ " (char " ++
    Text.ofNat index ++ ")"

end KconfigReference.Json
