import KconfigReference.Number.Binary64
import KconfigReference.Text.Digit

/-!
Decimal numbers with a point or an exponent, read as the nearest doubles.
-/

namespace KconfigReference

/-- The value and the length of the exponent that a text begins with, if it has a digit. -/
def Text.exponent? (t : Text) : Option (Int × Nat) :=
  match t with
  | e :: more =>
      if e = 'e' || e = 'E' then
        let (negative, digits, length) := match more with
          | '-' :: digits => (true, digits, 2)
          | '+' :: digits => (false, digits, 2)
          | digits => (false, digits, 1)
        let digits := digits.takeWhile Text.isAsciiDigit
        if digits = [] then none
        else
          let value : Int := Text.decimalValue digits
          some (if negative then -value else value, length + digits.length)
      else none
  | [] => none

namespace Binary64

/-- An unsigned number: digits with at most one point among them, and perhaps an exponent. -/
def readUnsigned? (negative : Bool) (t : Text) : Option Binary64 :=
  let whole := t.takeWhile Text.isAsciiDigit
  let afterWhole := t.drop whole.length
  let (places, rest) := match afterWhole with
    | '.' :: more =>
        let places := more.takeWhile Text.isAsciiDigit
        (places, more.drop places.length)
    | rest => ([], rest)
  if whole = [] && places = [] then none
  else
    let number (power : Int) :=
      ofDecimal negative (Text.decimalValue (whole ++ places)) (power - places.length)
    match rest with
    | [] => some (number 0)
    | _ =>
        match Text.exponent? rest with
        | some (power, length) => if length = rest.length then some (number power) else none
        | none => none

/-- Reads a number in lower case letters and any decimal digits, signed or not, with white space
around it; `inf`, `infinity` and `nan` are numbers. -/
def read? (t : Text) : Option Binary64 :=
  let body := (Text.strip t).map fun c =>
    match Text.digitValue? c with
    | some value => Char.ofNat ('0'.toNat + value)
    | none => c
  let (negative, body) := match body with
    | '-' :: rest => (true, rest)
    | '+' :: rest => (false, rest)
    | rest => (false, rest)
  if body = "inf" || body = "infinity" then some (.infinite negative)
  else if body = "nan" then some .nan
  else readUnsigned? negative body

end Binary64

end KconfigReference
