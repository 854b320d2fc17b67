import KconfigReference.Failure
import KconfigReference.Setting.Basic
import KconfigReference.Text.Basic

/-!
Kconfig lines and how they are read.

Physical lines are read in chunks of a fixed greatest length; the rest of a longer line is a line of
its own. In each chunk runs of white space become single spaces, and chunks that are blank or begin
with `#` are left out.
-/

namespace KconfigReference

inductive Keyword where
  | config
  | bool
  | int
  | hex
  | string
  | default
  | help
  | menu
  | endMenu
  | choice
  | endChoice
  | source
  | ifWord
  | endIf
deriving Repr, DecidableEq

/-- The spelling of each keyword; `help` has two. -/
def reservedWords : List (Text × Keyword) :=
  [("config", .config), ("bool", .bool), ("int", .int), ("hex", .hex), ("string", .string),
    ("default", .default), ("help", .help), ("---help---", .help), ("menu", .menu),
    ("endmenu", .endMenu), ("choice", .choice), ("endchoice", .endChoice), ("source", .source),
    ("if", .ifWord), ("endif", .endIf)]

/-- The keyword that a word is; none for a word that is not reserved. -/
def Keyword.ofWord? (word : Text) : Option Keyword :=
  (reservedWords.find? fun (spelling, _) => spelling = word).map (·.2)

/-- A line of words separated by single spaces, and where it came from. -/
structure Line where
  text : Text
  path : Text
  number : Nat
deriving Repr, DecidableEq

namespace Line

/-- The first word. -/
def word (line : Line) : Text := Text.firstWord line.text

/-- What follows the first word. -/
def rest (line : Line) : Text := Text.afterFirstSpace line.text

def keyword? (line : Line) : Option Keyword := Keyword.ofWord? line.word

def place (line : Line) : Place := ⟨some line.path, some line.number⟩

end Line

/-- The text cut into pieces of `room + 1` characters, the last one possibly shorter. -/
def chunks (room : Nat) : Text → List Text
  | [] => []
  | c :: rest => (c :: rest.take room) :: chunks room (rest.drop room)
termination_by t => t.length
decreasing_by simp only [List.length_drop, List.length_cons]; omega

theorem flatten_chunks (room : Nat) (t : Text) : (chunks room t).flatten = t := by
  fun_induction chunks room t with
  | case1 => rfl
  | case2 c rest ih => simp [ih]

theorem length_le_of_mem_chunks {room : Nat} {t chunk : Text} (h : chunk ∈ chunks room t) :
    chunk.length ≤ room + 1 := by
  fun_induction chunks room t with
  | case1 => simp at h
  | case2 c rest ih =>
      rcases List.mem_cons.1 h with rfl | h
      · simp only [List.length_cons, List.length_take]
        omega
      · exact ih h

/-- The room for a line after its first character, when a line buffer has `size` places and keeps
one of them free: at least one character is always read. -/
def lineRoom (size : Int) : Nat := (size - 2).toNat

/-- The lines that one physical line gives. -/
def linesOfPhysical (path : Text) (room number : Nat) (physical : Text) : List Line :=
  ((chunks room physical).map Text.squeeze).filterMap fun text =>
    if text = [] || text.head? = some '#' then none else some ⟨text, path, number⟩

/-- The lines of a list of physical lines, which are numbered from 1. -/
def readLines (path : Text) (room : Nat) (physicals : List Text) : List Line :=
  (physicals.zipIdx 1).flatMap fun (physical, number) => linesOfPhysical path room number physical

/-- How the setting of the line size reads: as a number of characters, or as something that fails
once there is a line to cut, or at once. A fraction below 2 still leaves room for one character. -/
inductive LineSize where
  | characters (size : Int)
  | uncuttable
  | unordered
deriving Repr, DecidableEq

namespace LineSize

def ofSetting : Setting → LineSize
  | .bool b => .characters (if b then 1 else 0)
  | .int n => .characters n
  | .float x =>
      if x = .nan then .uncuttable
      else if x.atMost 2 && x.toInt? ≠ some 2 then .characters 1
      else .uncuttable
  | _ => .unordered

/-- The lines of a list of physical lines under a line size. -/
def lines (size : LineSize) (path : Text) (physicals : List Text) : Except Misuse (List Line) :=
  match size with
  | .characters n => .ok (readLines path (lineRoom n) physicals)
  | .uncuttable => if physicals = [] then .ok [] else .error .wrongType
  | .unordered => .error .wrongType

end LineSize

end KconfigReference
