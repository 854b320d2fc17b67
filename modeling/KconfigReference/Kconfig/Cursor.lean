import KconfigReference.Kconfig.Line

/-!
A cursor over lines with push-back. Lines that were pushed back come before the upcoming ones, the
last one pushed first; `Cursor.lines` is the cursor as a plain list, and every operation is an
operation on that list.
-/

namespace KconfigReference

structure Cursor where
  pending : List Line
  upcoming : List Line
deriving Repr, DecidableEq

namespace Cursor

def ofLines (lines : List Line) : Cursor := ⟨[], lines⟩

/-- The lines still to come. -/
def lines (c : Cursor) : List Line := c.pending ++ c.upcoming

def size (c : Cursor) : Nat := c.lines.length

/-- Takes the next line. -/
def next : Cursor → Option Line × Cursor
  | ⟨line :: pending, upcoming⟩ => (some line, ⟨pending, upcoming⟩)
  | ⟨[], line :: upcoming⟩ => (some line, ⟨[], upcoming⟩)
  | ⟨[], []⟩ => (none, ⟨[], []⟩)

/-- Puts a line before all others. -/
def pushBack (c : Cursor) (line : Line) : Cursor := ⟨line :: c.pending, c.upcoming⟩

/-- Takes the next line and puts it back. -/
def peek (c : Cursor) : Option Line × Cursor :=
  match c.next with
  | (some line, rest) => (some line, rest.pushBack line)
  | (none, rest) => (none, rest)

/-- One step of an iteration, which stops where there is no next line. -/
def advance (c : Cursor) : Except Misuse Line × Cursor :=
  match c.next with
  | (some line, rest) => (.ok line, rest)
  | (none, rest) => (.error .exhausted, rest)

@[simp] theorem lines_ofLines (lines : List Line) : (ofLines lines).lines = lines := rfl

@[simp] theorem lines_pushBack (c : Cursor) (line : Line) :
    (c.pushBack line).lines = line :: c.lines := rfl

theorem next_fst (c : Cursor) : c.next.1 = c.lines.head? := by
  rcases c with ⟨_ | ⟨_, _⟩, _ | ⟨_, _⟩⟩ <;> rfl

theorem lines_next_snd (c : Cursor) : c.next.2.lines = c.lines.tail := by
  rcases c with ⟨_ | ⟨_, _⟩, _ | ⟨_, _⟩⟩ <;> rfl

theorem peek_fst (c : Cursor) : c.peek.1 = c.lines.head? := by
  rcases c with ⟨_ | ⟨_, _⟩, _ | ⟨_, _⟩⟩ <;> rfl

theorem lines_peek_snd (c : Cursor) : c.peek.2.lines = c.lines := by
  rcases c with ⟨_ | ⟨_, _⟩, _ | ⟨_, _⟩⟩ <;> rfl

theorem lines_of_next {c rest : Cursor} {line : Line} (h : c.next = (some line, rest)) :
    c.lines = line :: rest.lines := by
  have hhead := next_fst c
  have htail := lines_next_snd c
  rw [h] at hhead htail
  cases hl : c.lines with
  | nil => simp [hl] at hhead
  | cons first others => simp_all

theorem size_lt_of_next {c rest : Cursor} {line : Line} (h : c.next = (some line, rest)) :
    rest.size < c.size := by
  simp [size, lines_of_next h]

end Cursor

end KconfigReference
