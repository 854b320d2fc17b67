import KconfigReference.Text.Basic

/-!
Binary floating-point numbers of 64 bits, as exact values: a number of at most 53 bits times a power
of two. Reading a decimal rounds to the nearest such number, a tie to the even one. A fraction is
scaled by a power above and a power below, one of which is 1.
-/

namespace KconfigReference

/-- Two to a power, and 1 for a negative power. -/
def twoTo (power : Int) : Nat := Nat.pow 2 power.toNat

/-- Ten to a power, and 1 for a negative power. -/
def tenTo (power : Int) : Nat := Nat.pow 10 power.toNat

/-- A double. A finite one is `mantissa * 2 ^ exponent` with `mantissa < 2 ^ 53` and
`-1074 ≤ exponent`, and `2 ^ 52 ≤ mantissa` unless the exponent is least. -/
inductive Binary64 where
  | nan
  | infinite (negative : Bool)
  | finite (negative : Bool) (mantissa : Nat) (exponent : Int)
deriving Repr, DecidableEq

namespace Binary64

def leastExponent : Int := -1074

def zero (negative : Bool) : Binary64 := .finite negative 0 leastExponent

/-- `numerator / (denominator * 2 ^ exponent)` as quotient, remainder and divisor. -/
private def scaled (numerator denominator : Nat) (exponent : Int) : Nat × Nat × Nat :=
  let numerator := numerator * twoTo (-exponent)
  let divisor := denominator * twoTo exponent
  (numerator / divisor, numerator % divisor, divisor)

/-- The double nearest to a positive quotient, a tie going to the even mantissa. -/
def ofRatio (negative : Bool) (numerator denominator : Nat) : Binary64 :=
  if numerator = 0 then zero negative
  else
    let guess : Int := (numerator.log2 : Int) - denominator.log2 - 52
    let exponent := max leastExponent
      (if twoTo 52 ≤ (scaled numerator denominator guess).1 then guess else guess - 1)
    let (quotient, remainder, divisor) := scaled numerator denominator exponent
    let up := divisor < 2 * remainder || (2 * remainder = divisor && quotient % 2 = 1)
    let mantissa := if up then quotient + 1 else quotient
    let (mantissa, exponent) :=
      if mantissa = twoTo 53 then (twoTo 52, exponent + 1) else (mantissa, exponent)
    if 971 < exponent then .infinite negative else .finite negative mantissa exponent

/-- The double nearest to `digits * 10 ^ power`. Numbers far outside the range of doubles are
settled by their magnitude alone. -/
def ofDecimal (negative : Bool) (digits : Nat) (power : Int) : Binary64 :=
  let magnitude : Int := (Nat.toDigits 10 digits).length + power
  if digits = 0 || magnitude < -330 then zero negative
  else if 310 < magnitude then .infinite negative
  else ofRatio negative (digits * tenTo power) (tenTo (-power))

def ofInt (n : Int) : Binary64 := ofRatio (n < 0) n.natAbs 1

def negate : Binary64 → Binary64
  | .nan => .nan
  | .infinite negative => .infinite !negative
  | .finite negative mantissa exponent => .finite (!negative) mantissa exponent

/-- A finite number as a whole number of the least positive double. -/
def units (negative : Bool) (mantissa : Nat) (exponent : Int) : Int :=
  let magnitude : Nat := mantissa * twoTo (exponent - leastExponent)
  if negative then -magnitude else magnitude

/-- The sum, rounded to the nearest double; a sum of zero is negative only if both parts are. -/
def add : Binary64 → Binary64 → Binary64
  | .nan, _ => .nan
  | _, .nan => .nan
  | .infinite s, .infinite t => if s = t then .infinite s else .nan
  | .infinite s, _ => .infinite s
  | _, .infinite t => .infinite t
  | .finite s m e, .finite t n f =>
      let sum := units s m e + units t n f
      if sum = 0 then zero (s && t) else ofRatio (sum < 0) sum.natAbs (twoTo (-leastExponent))

/-- The product, rounded to the nearest double. -/
def mul : Binary64 → Binary64 → Binary64
  | .nan, _ => .nan
  | _, .nan => .nan
  | .infinite s, .infinite t => .infinite (s != t)
  | .infinite s, .finite t n _ => if n = 0 then .nan else .infinite (s != t)
  | .finite s m _, .infinite t => if m = 0 then .nan else .infinite (s != t)
  | .finite s m e, .finite t n f =>
      ofRatio (s != t) (m * n * twoTo (e + f)) (twoTo (-(e + f)))

/-- The quotient, rounded to the nearest double; the divisor should not be zero. -/
def div : Binary64 → Binary64 → Binary64
  | .nan, _ => .nan
  | _, .nan => .nan
  | .infinite _, .infinite _ => .nan
  | .infinite s, .finite t _ _ => .infinite (s != t)
  | .finite s _ _, .infinite t => zero (s != t)
  | .finite s m e, .finite t n f =>
      ofRatio (s != t) (m * twoTo (e - f)) (n * twoTo (f - e))

/-- Whether the number is at most a count; no comparison with `nan` holds. -/
def atMost (x : Binary64) (count : Nat) : Bool :=
  match x with
  | .nan => false
  | .infinite negative => negative
  | .finite negative mantissa exponent =>
      negative || mantissa * twoTo exponent ≤ count * twoTo (-exponent)

def isZero : Binary64 → Bool
  | .finite _ mantissa _ => mantissa = 0
  | _ => false

/-- The whole part of a number, without its sign. -/
def wholePart : Binary64 → Nat
  | .finite _ mantissa exponent => mantissa * twoTo exponent / twoTo (-exponent)
  | _ => 0

/-- The integer that the number is, if it is one. -/
def toInt? : Binary64 → Option Int
  | .finite negative mantissa exponent =>
      let divisor := twoTo (-exponent)
      if mantissa % divisor = 0 then
        let magnitude : Int := ((mantissa / divisor * twoTo exponent : Nat) : Int)
        some (if negative then -magnitude else magnitude)
      else none
  | _ => none

end Binary64

end KconfigReference
