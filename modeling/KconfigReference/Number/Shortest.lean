import KconfigReference.Number.Binary64

/-!
The decimal text of a double: the fewest digits that read back as the same double, and of those the
ones nearest to it. Numbers from 0.0001 up to sixteen digits before the point are written
positionally and always with a point, all others with an exponent of at least two digits.
-/

namespace KconfigReference.Binary64

/-- The ends of the interval of reals that read as a finite positive double, and the double itself,
in units of `2 ^ (exponent - 2)`. Below a power of two the grid of doubles is twice as fine. -/
structure Rounding where
  low : Nat
  value : Nat
  high : Nat
  /-- Whether the ends themselves still read as the double. -/
  closed : Bool

def rounding (mantissa : Nat) (exponent : Int) : Rounding :=
  { low := 4 * mantissa - (if mantissa = twoTo 52 && leastExponent < exponent then 1 else 2)
    value := 4 * mantissa
    high := 4 * mantissa + 2
    closed := mantissa % 2 = 0 }

/-- The multiple of `10 ^ power` nearest to the double among those that read as it, if there is one:
one of the double's two neighbours on that grid. -/
def onGrid? (mantissa : Nat) (exponent : Int) (power : Int) : Option Nat :=
  let r := rounding mantissa exponent
  let unit := exponent - 2
  -- both sides scaled to integers: a bound `b` is `b * up`, a multiple `q` is `q * step`
  let up := twoTo unit * tenTo (-power)
  let step := tenTo power * twoTo (-unit)
  let reads (q : Nat) : Bool :=
    if r.closed then r.low * up ≤ q * step && q * step ≤ r.high * up
    else r.low * up < q * step && q * step < r.high * up
  let below := r.value * up / step
  let rest := r.value * up % step
  let nearer := if 2 * rest < step || (2 * rest = step && below % 2 = 0) then below else below + 1
  let farther := if nearer = below then below + 1 else below
  if reads nearer then some nearer else if reads farther then some farther else none

/-- The digits, as a number, and the power of ten of the last one: the coarsest decimal grid with a
point that reads as the double. -/
def shortest (mantissa : Nat) (exponent : Int) : Nat × Int :=
  let powers := (List.range 660).map fun i : Nat => 310 - (i : Int)
  (powers.findSome? fun power => (onGrid? mantissa exponent power).map (·, power)).getD (0, 0)

private def sign (negative : Bool) : Text := if negative then ['-'] else []

/-- The sign and at least two digits of an exponent. -/
private def exponentText (n : Int) : Text :=
  let digits := Text.ofNat n.natAbs
  "e" ++ (if n < 0 then "-" else "+") ++ List.replicate (2 - digits.length) '0' ++ digits

/-- Digits with the decimal point after the first `point` of them. -/
private def placed (digits : Text) (point : Int) : Text :=
  if -4 < point && point ≤ 16 then
    if point ≤ 0 then "0." ++ List.replicate (-point).toNat '0' ++ digits
    else if point.toNat < digits.length then
      digits.take point.toNat ++ "." ++ digits.drop point.toNat
    else digits ++ List.replicate (point.toNat - digits.length) '0' ++ ".0"
  else
    digits.take 1 ++ (if digits.length = 1 then [] else '.' :: digits.drop 1) ++
      exponentText (point - 1)

/-- The digits of a positive finite double, placed. -/
private def positive (mantissa : Nat) (exponent : Int) : Text :=
  let (number, power) := shortest mantissa exponent
  let digits := Text.ofNat number
  placed digits (digits.length + power)

def text : Binary64 → Text
  | .nan => "nan"
  | .infinite negative => sign negative ++ "inf"
  | .finite negative 0 _ => sign negative ++ "0.0"
  | .finite negative mantissa exponent => sign negative ++ positive mantissa exponent

end KconfigReference.Binary64
