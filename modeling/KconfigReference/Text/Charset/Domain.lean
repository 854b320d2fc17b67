import KconfigReference.Text.Charset.Basic

/-!
Codings of the labels of domain names. The characters of a label that are not ASCII are left out,
and told behind its last hyphen: a number for each says how far it is from the one before, counted
over all characters and all places.
-/

namespace KconfigReference.Charset

namespace Punycode

/-- The value of a digit to the base 36: letters, then digits. -/
def digit? (c : Char) : Option Nat :=
  if 'A' ≤ c ∧ c ≤ 'Z' then some (c.toNat - 'A'.toNat)
  else if '0' ≤ c ∧ c ≤ '9' then some (c.toNat - '0'.toNat + 26)
  else none

/-- The least digit that does not end a number at a place, under a bias. -/
def threshold (place bias : Nat) : Nat := min 26 (max 1 (36 * (place + 1) - bias))

/-- The number at the beginning of some digits, and the digits after it. -/
def number (bias place weight sum : Nat) : Text → Except Text (Nat × Text)
  | [] => .error "incomplete punicode string"
  | c :: rest =>
      match digit? c with
      | none => .error ("Invalid extended code point '" ++ [c] ++ "'")
      | some digit =>
          let limit := threshold place bias
          if digit < limit then .ok (sum + digit * weight, rest)
          else number bias (place + 1) (weight * (36 - limit)) (sum + digit * weight) rest

/-- How many times a number is divided until it is small, and what is left. The first argument
bounds the divisions. -/
def divisions : Nat → Nat → Nat × Nat
  | 0, n => (0, n)
  | bound + 1, n =>
      if n ≤ 455 then (0, n)
      else
        let (count, left) := divisions bound (n / 35)
        (count + 1, left)

/-- The bias for the number after one that put in a character of a text of some length. -/
def adapt (number : Nat) (isFirst : Bool) (length : Nat) : Nat :=
  let scaled := number / (if isFirst then 700 else 2)
  let scaled := scaled + scaled / length
  let (count, left) := divisions scaled scaled
  36 * count + 36 * left / (left + 38)

/-- Puts in the characters that the numbers tell. The first argument bounds them; `code` and `place`
are those of the next character at least. -/
def insertFrom (isFirst : Bool) (code place bias : Nat) (base : CodeText) :
    Nat → Text → Except Text CodeText
  | _, [] => .ok base
  | 0, _ => .ok base
  | bound + 1, digits => do
      let (delta, rest) ← number bias 0 1 0 digits
      let distance := place + delta
      let code := code + distance / (base.length + 1)
      let place := distance % (base.length + 1)
      if 0x10FFFF < code then
        throw ("Invalid character U+".toList ++ Nat.toDigits 16 code)
      let base := base.take place ++ [.ofNat code] ++ base.drop place
      insertFrom false code (place + 1) (adapt delta isFirst base.length) base bound rest

/-- The text of the bytes of a label: what comes before its last hyphen, and the characters that the
digits after it tell. -/
def decode (bytes : Bytes) : Except Fault CodeText := do
  let digits := (bytes.reverse.takeWhile (· ≠ 0x2D)).reverse
  let base ← asciiText (bytes.take (bytes.length - digits.length - 1))
  let digits ← asciiText digits
  (insertFrom true 0x80 0 72 base digits.length (digits.map Char.toUpper)).mapError .refused

end Punycode

def punycode : Charset := ⟨["punycode"], Punycode.decode⟩

/-- What a decoder reports that is not about single bytes, with the name of the coding. -/
def failed (name message : Text) : Text :=
  "decoding with '" ++ name ++ "' codec failed (UnicodeError: " ++ message ++ ")"

/-- The marks that begin a label in which characters are left out. -/
def labelMark : Bytes := "xn--".toUTF8.toList

/-- The greatest length of a label. -/
def labelLimit : Nat := 63

/-- The text of a label. One whose text is ASCII should not have been marked. -/
def labelText (label : Bytes) : Except Fault CodeText := do
  if !labelMark.isPrefixOf label then
    let text ← asciiText label
    pure text
  else
    let text ← (Punycode.decode (label.drop labelMark.length)).mapError fun fault =>
      match fault with
      | .refused message => .refused (failed "punycode" message)
      | other => other
    match text.plain?.map fun plain => (plain, plain.all (·.toNat < 0x80)) with
    | some (plain, true) =>
        if plain = [] || labelLimit < plain.length then throw (.refused "label empty or too long")
        let marked ← asciiText label
        throw (.stated ("('IDNA does not round-trip', b" ++ Text.quoted marked ++ ", b" ++
          Text.quoted plain ++ ")"))
    | _ =>
        if labelLimit < label.length then throw (.refused "label empty or too long")
        pure text

/-- The parts of bytes between points. -/
def labels (bytes : Bytes) : List Bytes :=
  bytes.foldr
    (fun byte parts =>
      if byte = 0x2E then [] :: parts
      else
        match parts with
        | [] => [[byte]]
        | part :: more => (byte :: part) :: more)
    [[]]

/-- Names of domains. -/
def idna : Charset where
  names := ["idna"]
  decode bytes := do
    let texts ← (labels bytes).mapM labelText
    pure ([CodePoint.char '.'].intercalate texts)

end KconfigReference.Charset
