import KconfigReference.Text.Utf8

/-!
Base64, read leniently: characters that are no digits are skipped, and the first complete padding
ends the text.
-/

namespace KconfigReference.Base64

/-- The value of a digit to the base 64. -/
def digit? (c : Char) : Option Nat :=
  if 'A' ≤ c ∧ c ≤ 'Z' then some (c.toNat - 'A'.toNat)
  else if 'a' ≤ c ∧ c ≤ 'z' then some (c.toNat - 'a'.toNat + 26)
  else if '0' ≤ c ∧ c ≤ '9' then some (c.toNat - '0'.toNat + 52)
  else if c = '+' then some 62
  else if c = '/' then some 63
  else none

/-- The bytes of a text, after some digits of a group of four and some marks of padding. `bits` are
the bits of these digits that belong to no byte yet. Between two digits the padding begins anew, and
a group that is not complete in the end is a fault. -/
def decodeFrom (digits pads bits : Nat) : Text → Option Bytes
  | [] => if digits = 0 then some [] else none
  | '=' :: rest =>
      if digits < 2 then decodeFrom digits pads bits rest
      else if 4 ≤ digits + pads + 1 then some []
      else decodeFrom digits (pads + 1) bits rest
  | c :: rest =>
      match digit? c with
      | none => decodeFrom digits pads bits rest
      | some value =>
          match digits with
          | 0 => decodeFrom 1 0 value rest
          | 1 => (decodeFrom 2 0 (value % 16) rest).map (UInt8.ofNat (bits * 4 + value / 16) :: ·)
          | 2 => (decodeFrom 3 0 (value % 4) rest).map (UInt8.ofNat (bits * 16 + value / 4) :: ·)
          | _ => (decodeFrom 0 0 0 rest).map (UInt8.ofNat (bits * 64 + value) :: ·)

def decode? (t : Text) : Option Bytes := decodeFrom 0 0 0 t

example : decode? "aGk=" = some [0x68, 0x69] := by decide
example : decode? "aG k" = none := by decide
example : decode? "a" = none := by decide

end KconfigReference.Base64
