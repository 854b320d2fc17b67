import KconfigReference.Text.Basic

/-!
Digits: the decimal digits of all scripts, digits of other bases, and what runs of them denote. A
table of code points is written in hexadecimal digits as words, each of them a span of code points:
a single one, or the first and the last with a hyphen between them.
-/

namespace KconfigReference.Text

/-- The code points of the digits zero of Unicode 14; the nine digits above each follow it. -/
def zeroDigits : List Nat :=
  [0x30, 0x660, 0x6f0, 0x7c0, 0x966, 0x9e6, 0xa66, 0xae6, 0xb66, 0xbe6, 0xc66, 0xce6, 0xd66, 0xde6,
    0xe50, 0xed0, 0xf20, 0x1040, 0x1090, 0x17e0, 0x1810, 0x1946, 0x19d0, 0x1a80, 0x1a90, 0x1b50,
    0x1bb0, 0x1c40, 0x1c50, 0xa620, 0xa8d0, 0xa900, 0xa9d0, 0xa9f0, 0xaa50, 0xabf0, 0xff10,
    0x104a0, 0x10d30, 0x11066, 0x110f0, 0x11136, 0x111d0, 0x112f0, 0x11450, 0x114d0, 0x11650,
    0x116c0, 0x11730, 0x118e0, 0x11950, 0x11c50, 0x11d50, 0x11da0, 0x16a60, 0x16ac0, 0x16b50,
    0x1d7ce, 0x1d7d8, 0x1d7e2, 0x1d7ec, 0x1d7f6, 0x1e140, 0x1e2f0, 0x1e950, 0x1fbf0]

/-- One of the digits from `0` to `9`. -/
def isAsciiDigit (c : Char) : Bool := '0' ≤ c && c ≤ '9'

/-- The number that a run of digits from `0` to `9` denotes. -/
def decimalValue (digits : Text) : Nat :=
  digits.foldl (fun n c => n * 10 + (c.toNat - '0'.toNat)) 0

/-- The greatest number of digits of a decimal integer that is read. -/
def digitLimit : Nat := 4300

def hexDigit? (c : Char) : Option Nat :=
  if isAsciiDigit c then some (c.toNat - '0'.toNat)
  else if 'a' ≤ c ∧ c ≤ 'f' then some (c.toNat - 'a'.toNat + 10)
  else if 'A' ≤ c ∧ c ≤ 'F' then some (c.toNat - 'A'.toNat + 10)
  else none

/-- The number that a run of hexadecimal digits denotes. -/
def hexNumber? (digits : Text) : Option Nat :=
  digits.foldlM (fun n c => (hexDigit? c).map (n * 16 + ·)) 0

/-- The value of a decimal digit of any script. -/
def digitValue? (c : Char) : Option Nat :=
  (zeroDigits.find? fun first => first ≤ c.toNat && c.toNat ≤ first + 9).map (c.toNat - ·)

def isDigit (c : Char) : Bool := (digitValue? c).isSome

/-- The value of a character as a digit of a base up to 36, letters standing for ten and more. -/
def baseDigit? (base : Nat) (c : Char) : Option Nat := do
  let value ← digitValue? c <|>
    (if 'a' ≤ c ∧ c ≤ 'z' then some (c.toNat - 'a'.toNat + 10)
     else if 'A' ≤ c ∧ c ≤ 'Z' then some (c.toNat - 'A'.toNat + 10) else none)
  if value < base then some value else none

/-- The number that a run of digits of a base denotes; none for an empty run. -/
def digits? (base : Nat) : Text → Option Nat
  | [] => none
  | t => t.foldlM (fun value c => (baseDigit? base c).map (value * base + ·)) 0

/-- The text without white space at both ends. -/
def strip (t : Text) : Text := dropTrailing isBlank (t.dropWhile isBlank)

/-- The first and the last number of a span, which are the same where only one is written. -/
def span? (t : Text) : Option (Nat × Nat) :=
  match (pieces (· = '-') t).mapM hexNumber? with
  | some [only] => some (only, only)
  | some [first, last] => some (first, last)
  | _ => none

example : span? "b2-b3" = some (0xb2, 0xb3) := by decide

def isWithin (n : Nat) (span : Nat × Nat) : Bool := span.1 ≤ n && n ≤ span.2

/-- The entries of a row of a table. -/
def tableEntries (row : List String) : List Text :=
  row.flatMap fun part => pieces (· = ' ') part.toList

def spans (row : List String) : List (Nat × Nat) := (tableEntries row).filterMap span?

end KconfigReference.Text
