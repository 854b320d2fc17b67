import KconfigReference.Text.CharacterName.Named
import KconfigReference.Text.CodePoint

/-!
Escapes: characters that a backslash and letters or digits after it stand for. A character may be
told by a letter of its own, by its number to the base 8 or 16, or by its name between braces. A
backslash before anything else stands for itself.
-/

namespace KconfigReference

/-- What some characters after a backslash mean. -/
inductive Escape where
  /-- What the backslash and so many characters after it stand for. -/
  | points (points : CodeText) (width : Nat)
  /-- So many characters that make no escape, and why. -/
  | fault (width : Nat) (reason : String)

namespace Escape

/-- The character of a letter after the backslash. -/
def ofLetter? : Char → Option Char
  | '\\' => some '\\'
  | '\'' => some '\''
  | '"' => some '"'
  | 'a' => some '\x07'
  | 'b' => some '\x08'
  | 'f' => some '\x0c'
  | 'n' => some '\n'
  | 'r' => some '\r'
  | 't' => some '\t'
  | 'v' => some '\x0b'
  | _ => none

def isOctal (c : Char) : Bool := '0' ≤ c && c ≤ '7'

def octalNumber (digits : Text) : Nat := digits.foldl (fun n c => n * 8 + (c.toNat - '0'.toNat)) 0

/-- The digits to the base 8 at the beginning of a text, three of them at most. -/
def octalDigits (t : Text) : Text := (t.take 3).takeWhile isOctal

/-- How many hexadecimal digits come after a letter, and what is wrong if there are fewer. -/
def codeWidth? : Char → Option (Nat × String)
  | 'x' => some (2, "truncated \\xXX escape")
  | 'u' => some (4, "truncated \\uXXXX escape")
  | 'U' => some (8, "truncated \\UXXXXXXXX escape")
  | _ => none

/-- The greatest number of a character. -/
def codeLimit : Nat := 0x10FFFF

/-- A character by its number, in so many digits after a letter. -/
def ofCode (width : Nat) (tooFew tooGreat : String) (rest : Text) : Escape :=
  let digits := (rest.take width).takeWhile fun c => (Text.hexDigit? c).isSome
  let code := (Text.hexNumber? digits).getD 0
  if digits.length < width then .fault (1 + digits.length) tooFew
  else if codeLimit < code then .fault (1 + width) tooGreat
  else .points [.ofNat code] (1 + width)

/-- A character by its name, between braces after a letter. -/
def ofName (rest : Text) : Escape :=
  let malformed (width : Nat) : Escape := .fault (1 + width) "malformed \\N character escape"
  match rest with
  | '\x7b' :: more =>
      let name := more.takeWhile (· ≠ '\x7d')
      if name.length = more.length ∨ name = [] then malformed (1 + name.length)
      else
        match Text.characterNamed? name with
        | some c => .points [.char c] (name.length + 3)
        | none => .fault (name.length + 3) "unknown Unicode character name"
  | _ => malformed 0

/-- The escape of a backslash before a text. The end of a line after it is left out with it. -/
def read : Text → Escape
  | [] => .fault 0 "\\ at end of string"
  | letter :: rest =>
      match codeWidth? letter, ofLetter? letter with
      | some (width, tooFew), _ => ofCode width tooFew "illegal Unicode character" rest
      | none, some c => .points [.char c] 1
      | none, none =>
          let octal := octalDigits (letter :: rest)
          if letter = 'N' then ofName rest
          else if letter = '\n' then .points [] 1
          else if octal ≠ [] then .points [.char (Char.ofNat (octalNumber octal))] octal.length
          else .points [.char '\\'] 0

end Escape

end KconfigReference
