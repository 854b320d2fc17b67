import KconfigReference.Failure
import KconfigReference.Setting.Written

/-!
What can be wrong with a template of assignments. It may not be well formed, and then nothing of it
counts; or one of its statements stops it.
-/

namespace KconfigReference.Assignment

inductive Fault where
  | malformed (message : Text) (line : Nat)
  | indented (line : Nat)
  /-- Bytes that are no text, behind another fault. -/
  | undecodable (message : Text)
  /-- A NUL character in the text. -/
  | nullCharacter
  | moduleNotFound (module : Text)
  /-- The import of a part of a package where there is no package. -/
  | noPackage
  | nameNotDefined (name : Text)
  | divisionByZero (amongReals : Bool)
  /-- An integer that no real number is near to. -/
  | integerTooLarge
  | quotientTooLarge
  | noQuotient (dividend divisor : Text)
  | noSign (sign : Char) (type : Text)
  | unhashable (type : Text)
  /-- The report of a system error, with what it says. -/
  | system (arguments : List Setting)

/-- A line of a text, counted from one, that something begins in. -/
structure Placed (α : Type) where
  item : α
  line : Nat

/-- The bracket that closes another. -/
def closerOf : Char → Char
  | '(' => ')'
  | '[' => ']'
  | _ => '\x7d'

def neverClosed (bracket : Placed Char) : Fault :=
  .malformed ("'" ++ [bracket.item] ++ "' was never closed") bracket.line

/-- What the type of a setting is called. -/
def typeName : Setting → Text
  | .null => "NoneType"
  | .bool _ => "bool"
  | .int _ => "int"
  | .float _ => "float"
  | .text _ => "str"
  | .list _ => "list"
  | .dict _ => "dict"
  | .bytes _ => "bytes"
  | .date _ => "datetime.date"
  | .dateTime _ => "datetime.datetime"
  | .tuple _ => "tuple"
  | .set _ => "set"
  | .enclosing isMapping => if isMapping then "dict" else "list"

/-- The reason that a system error gives: its second argument, or if that says nothing, all that it
says. -/
def systemReason (arguments : List Setting) : Except Misuse Text := do
  let shown (part : Setting) : Except Misuse Text := part.shown.map CodeText.joined
  let numbered (number reason : Setting) : Except Misuse Text := do
    pure ("[Errno " ++ (← shown number) ++ "] " ++ (← shown reason))
  let files (names : List Setting) : Except Misuse Text := do
    let names := names.filter fun name => match name with | .null => false | _ => true
    match ← names.mapM Setting.written with
    | [] => pure []
    | names => pure (": " ++ Text.join " -> " names)
  match arguments with
  | [] => pure []
  | [single] => shown single
  | [number, reason] => if reason.isTrue then shown reason else numbered number reason
  | [number, reason, file] | [number, reason, file, _] =>
      if reason.isTrue then shown reason
      else pure ((← numbered number reason) ++ (← files [file]))
  | [number, reason, file, _, other] =>
      if reason.isTrue then shown reason
      else pure ((← numbered number reason) ++ (← files [file, other]))
  | many => (Setting.tuple many).written

end KconfigReference.Assignment
