import KconfigReference.Text.Basic

/-!
UTF-8. The decoder reads one byte at a time and keeps what the bytes of an unfinished character
allow next. Bytes that cannot be part of a character are cut into maximal unfinished beginnings of
characters, each of which is one fault; a strict reader refuses them and a lenient one replaces each
by U+FFFD.
-/

namespace KconfigReference

abbrev Bytes := List UInt8

namespace Utf8

/-- An unfinished character: the code point so far, how many bytes are owed, and the least and
greatest byte that may come next. -/
structure Partial where
  value : Nat
  owed : Nat
  least : Nat
  greatest : Nat
deriving Repr, DecidableEq

/-- What a byte at the beginning of a character means. -/
inductive Lead where
  | character (c : Char)
  | beginning (p : Partial)
  | fault
deriving Repr, DecidableEq

/-- Shortest forms only, no surrogates, and nothing above U+10FFFF. -/
def lead (byte : UInt8) : Lead :=
  let b := byte.toNat
  if b < 0x80 then .character (Char.ofNat b)
  else if b < 0xC2 then .fault
  else if b < 0xE0 then .beginning ⟨b - 0xC0, 1, 0x80, 0xBF⟩
  else if b = 0xE0 then .beginning ⟨0, 2, 0xA0, 0xBF⟩
  else if b = 0xED then .beginning ⟨0xD, 2, 0x80, 0x9F⟩
  else if b < 0xF0 then .beginning ⟨b - 0xE0, 2, 0x80, 0xBF⟩
  else if b = 0xF0 then .beginning ⟨0, 3, 0x90, 0xBF⟩
  else if b < 0xF4 then .beginning ⟨b - 0xF0, 3, 0x80, 0xBF⟩
  else if b = 0xF4 then .beginning ⟨4, 3, 0x80, 0x8F⟩
  else .fault

/-- The characters and faults (`none`) that one more byte completes, and what is unfinished after
it. -/
def feed (unfinished : Option Partial) (byte : UInt8) : List (Option Char) × Option Partial :=
  let fresh : List (Option Char) × Option Partial :=
    match lead byte with
    | .character c => ([some c], none)
    | .beginning p => ([], some p)
    | .fault => ([none], none)
  match unfinished with
  | none => fresh
  | some p =>
      if p.least ≤ byte.toNat ∧ byte.toNat ≤ p.greatest then
        let value := p.value * 64 + (byte.toNat - 0x80)
        if p.owed = 1 then ([some (Char.ofNat value)], none)
        else ([], some ⟨value, p.owed - 1, 0x80, 0xBF⟩)
      else (none :: fresh.1, fresh.2)

/-- The characters and faults of a byte sequence, given what was unfinished before it. -/
def units (unfinished : Option Partial) : Bytes → List (Option Char)
  | [] => if unfinished.isSome then [none] else []
  | byte :: rest => (feed unfinished byte).1 ++ units (feed unfinished byte).2 rest

/-- The text of a part of a byte sequence without faults, and what is unfinished after it. -/
def decodePart? (unfinished : Option Partial) : Bytes → Option (Text × Option Partial)
  | [] => some ([], unfinished)
  | byte :: rest => do
      let (completed, next) := feed unfinished byte
      let chars ← completed.mapM id
      let (more, last) ← decodePart? next rest
      pure (chars ++ more, last)

/-- What can be wrong where a byte sequence is no text. -/
inductive Flaw where
  | start
  | continuation
  | incomplete
deriving Repr, DecidableEq

/-- A flaw, the bytes that make it, and their place. -/
structure Flawed where
  flaw : Flaw
  bytes : Bytes
  index : Nat
deriving Repr, DecidableEq

/-- The first flaw of a byte sequence. `pending` are the bytes of the unfinished character before
it, the last one first, and `index` is the place of its first byte. -/
def flawed? (unfinished : Option Partial) (pending : Bytes) (index : Nat) : Bytes → Option Flawed
  | [] => unfinished.map fun _ => ⟨.incomplete, pending.reverse, index - pending.length⟩
  | byte :: rest =>
      match unfinished with
      | some p =>
          if p.least ≤ byte.toNat ∧ byte.toNat ≤ p.greatest then
            match (feed unfinished byte).2 with
            | some next => flawed? (some next) (byte :: pending) (index + 1) rest
            | none => flawed? none [] (index + 1) rest
          else some ⟨.continuation, pending.reverse, index - pending.length⟩
      | none =>
          match lead byte with
          | .character _ => flawed? none [] (index + 1) rest
          | .beginning p => flawed? (some p) [byte] (index + 1) rest
          | .fault => some ⟨.start, [byte], index⟩

/-- The text of a byte sequence without faults. -/
def decode? (bytes : Bytes) : Option Text := (units none bytes).mapM id

/-- The text of a byte sequence, with U+FFFD for each fault. -/
def decodeLenient (bytes : Bytes) : Text := (units none bytes).map (·.getD '\uFFFD')

def encode (t : Text) : Bytes := t.flatMap String.utf8EncodeChar

/-- The number of bytes of a text. -/
def size (t : Text) : Nat := t.foldl (fun bytes c => bytes + c.utf8Size) 0

end Utf8

end KconfigReference
