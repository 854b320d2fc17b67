import KconfigReference.Failure
import KconfigReference.Kconfig.Cursor

/-!
Configuration entries: the attribute lines after a `config` line, and the record they fill in. The
attribute lines are taken from a cursor up to the first line that is none, which stays on it.

Prompts are quoted. A backslash escapes the character after it, whatever that is; a quotation mark
that is not escaped opens or closes a prompt, and one that is not closed runs to the end of its
line.
-/

namespace KconfigReference

namespace Prompt

/-- The two sides of the first occurrence of `mark` that is not escaped, if there is one. The flag
says whether the first character is escaped. The backslash itself is never found. -/
def splitAtMark (mark : Text) (escaped : Bool) : Text → Option (Text × Text)
  | [] => none
  | c :: rest =>
      let further (escaped : Bool) :=
        (splitAtMark mark escaped rest).map fun (before, after) => (c :: before, after)
      if escaped then further false
      else if c = '\\' then further true
      else if [c] = mark then some ([], rest)
      else further false

/-- The index of the first occurrence of `mark` at or after `start` that is not escaped, counting
escapes from `start`. A negative start counts from the end of the text, from where the search runs
to the end and then through the whole text; a start before the beginning is a bad index. A mark of
any other length than one character is never found. -/
def find (text mark : Text) (start : Int) : Except Misuse (Option Int) :=
  let index (searched : Text) : Option Int :=
    (splitAtMark mark false searched).map fun (before, _) => start + before.length
  if 0 ≤ start then .ok (index (text.drop start.toNat))
  else if start < -(text.length : Int) then .error .badIndex
  else .ok (index (text.drop (text.length + start).toNat ++ text))

/-- The text between the first two quotation marks that are not escaped, escapes kept as they are
written; none when there is no such mark. -/
def extract (text : Text) : Option Text :=
  (splitAtMark ['"'] false text).map fun (_, opened) =>
    match splitAtMark ['"'] false opened with
    | some (prompt, _) => prompt
    | none => opened

example : extract "bool \"Foo \\\"bar\\\" baz\" if X" = some "Foo \\\"bar\\\" baz".toList := by
  decide
example : extract "no quotes" = none := by decide
example : extract "\"open" = some "open".toList := by decide

end Prompt

inductive ValueType where
  | boolean
  | integer
  | hexadecimal
  | string
deriving Repr, DecidableEq

/-- The name of a type in the reference. -/
def ValueType.label : ValueType → Text
  | .boolean => "Boolean"
  | .integer => "Integer"
  | .hexadecimal => "Hexadecimal"
  | .string => "String"

/-- What an attribute line says about the entry above it. -/
inductive Attribute where
  | type (type : ValueType) (prompt : Option Text)
  | default (value : Text)
  | help
deriving Repr, DecidableEq

/-- The attribute that a line holds, if it is an attribute line. -/
def Line.attribute? (line : Line) : Option Attribute :=
  let typed (type : ValueType) : Option Attribute := some (.type type (Prompt.extract line.rest))
  match line.keyword? with
  | some .bool => typed .boolean
  | some .int => typed .integer
  | some .hex => typed .hexadecimal
  | some .string => typed .string
  | some .default => some (.default line.rest)
  | some .help => some .help
  | _ => none

/-- A configuration entry, with the conditions in force around it, outermost first. -/
structure Entry where
  name : Text
  directory : Text
  type : Option ValueType
  description : Option Text
  default : Option Text
  hasHelp : Bool
  conditions : List Text
deriving Repr, DecidableEq

namespace Entry

/-- The entry before its attributes. -/
def bare (name directory : Text) (conditions : List Text) : Entry :=
  ⟨name, directory, none, none, none, false, conditions⟩

/-- Whether the entry lacks a description, an empty one counting as none. -/
def isHidden (entry : Entry) : Bool := entry.description.getD [] = []

/-- The entry after one more attribute: the last type and default win, and a prompt replaces an
earlier one unless it is missing or empty. -/
def set (entry : Entry) : Attribute → Entry
  | .type type prompt =>
      { entry with
        type := some type
        description := if prompt.getD [] = [] then entry.description else prompt }
  | .default value => { entry with default := some value }
  | .help => { entry with hasHelp := true }

end Entry

/-- An entry with its attributes, the cursor after them, and the line that ended them. -/
structure Collected where
  entry : Entry
  cursor : Cursor
  ended : Option Line

/-- Takes the attribute lines from a cursor into an entry. -/
def Entry.collect (entry : Entry) (cursor : Cursor) : Collected :=
  match _hnext : cursor.next with
  | (none, rest) => ⟨entry, rest, none⟩
  | (some line, rest) =>
      match line.attribute? with
      | none => ⟨entry, rest.pushBack line, some line⟩
      | some found => (entry.set found).collect rest
termination_by cursor.size
decreasing_by exact Cursor.size_lt_of_next _hnext

theorem Entry.size_collect_le (entry : Entry) (cursor : Cursor) :
    (entry.collect cursor).cursor.size ≤ cursor.size := by
  fun_induction Entry.collect entry cursor with
  | case1 entry cursor rest h =>
      have hl := Cursor.lines_next_snd cursor
      rw [h] at hl
      simp only [Cursor.size, hl, List.length_tail]
      omega
  | case2 entry cursor line rest h hnone =>
      simp [Cursor.size, Cursor.lines_of_next h]
  | case3 entry cursor line rest h found hfound ih =>
      exact Nat.le_of_lt (Nat.lt_of_le_of_lt ih (Cursor.size_lt_of_next h))

end KconfigReference
