import KconfigReference.Text.Basic
import KconfigReference.Text.Utf8

/-!
The staging buffer: a file that is written and read at a place in it. It is kept in memory until
more than its limit stands before the place, and on disk from then on. It holds texts in UTF-8, and
what is read of it has line feeds for line endings.
-/

namespace KconfigReference

/-- The contents of a file, cut at the place where it is read and written. -/
structure Stream where
  /-- The bytes before the place, the last one first. -/
  behind : Bytes
  /-- The bytes from the place on. -/
  ahead : Bytes
  /-- How many bytes stand before the place. -/
  position : Nat
  counted : position = behind.length
deriving Repr, DecidableEq

namespace Stream

def empty : Stream := ⟨[], [], 0, rfl⟩

def contents (s : Stream) : Bytes := s.behind.reverse ++ s.ahead

/-- Moves the place, not further than to the end. -/
def seek (s : Stream) (position : Nat) : Stream where
  behind := (s.contents.take position).reverse
  ahead := s.contents.drop position
  position := min position s.contents.length
  counted := by simp

def seekEnd (s : Stream) : Stream := s.seek s.contents.length

/-- Writes over what stands at the place, and moves the place behind it. -/
def write (s : Stream) (bytes : Bytes) : Stream where
  behind := bytes.reverse ++ s.behind
  ahead := s.ahead.drop bytes.length
  position := s.position + bytes.length
  counted := by
    rw [s.counted]
    simp [Nat.add_comm]

end Stream

structure Staging where
  /-- How many bytes may be kept in memory; any number of them if it is zero. -/
  limit : Int
  isOnDisk : Bool
  stream : Stream
deriving Repr, DecidableEq

namespace Staging

def empty (limit : Int) : Staging := ⟨limit, false, .empty⟩

/-- Whether too much is kept in memory. -/
def isCrowded (s : Staging) : Bool :=
  !s.isOnDisk && s.limit != 0 && s.limit < s.stream.position

/-- Moves everything to a new file on disk, with the place where it was. -/
def rollOver (s : Staging) : Staging :=
  { s with
    isOnDisk := true
    stream := (Stream.empty.write s.stream.contents).seek s.stream.position }

def write (s : Staging) (text : Text) : Staging :=
  let written := { s with stream := s.stream.write (Utf8.encode text) }
  if written.isCrowded then written.rollOver else written

/-- The text from the place on; none if it is not UTF-8. The place moves to the end. -/
def read (s : Staging) : Option Text × Staging :=
  ((Utf8.decode? s.stream.ahead).map Text.normalizeLineEndings,
    { s with stream := s.stream.seekEnd })

def rewind (s : Staging) : Staging := { s with stream := s.stream.seek 0 }

def seekEnd (s : Staging) : Staging := { s with stream := s.stream.seekEnd }

end Staging

end KconfigReference
