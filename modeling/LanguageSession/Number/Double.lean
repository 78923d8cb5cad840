/-!
Double precision numbers, kept as the bits of their magnitude.  A number is read from
a ratio or a decimal with correct rounding, is compared with whole numbers exactly, and
sums are rounded once.

The finite magnitudes in order are the numbers `0, 1, 2, …` times the least
positive double as long as the exponent field is zero; from then on every step of
the exponent doubles the distance.  Counting all of them in one sequence makes a
carry in the significand a carry into the exponent, so rounding needs no special
case at a power of two.
-/

namespace LanguageSession

/-- How many doubles there are with one sign and one exponent: two to the power of 52. -/
def Double.binade : Nat := 0x10000000000000

/-- One more than the greatest finite magnitude. -/
def Double.magnitudeLimit : Nat := 2047 * Double.binade

inductive Double where
  | nan
  | infinity (negative : Bool)
  | finite (negative : Bool) (magnitude : Fin Double.magnitudeLimit)
  deriving DecidableEq, Repr

namespace Double

def signedZero (negative : Bool) : Double := .finite negative ⟨0, by decide⟩

def zero : Double := signedZero false

/-- The whole number `m` such that the magnitude is `m * 2 ^ scale`. -/
def significand (magnitude : Nat) : Nat :=
  if magnitude / binade = 0 then magnitude else binade + magnitude % binade

/-- The exponent of two that belongs to `significand`. -/
def scale (magnitude : Nat) : Int :=
  if magnitude / binade = 0 then -1074 else (magnitude / binade : Nat) - 1075

/-- The magnitude as a ratio of whole numbers. -/
def ratio (magnitude : Nat) : Nat × Nat :=
  match scale magnitude with
  | .ofNat e => (significand magnitude * Nat.pow 2 e, 1)
  | .negSucc e => (significand magnitude, Nat.pow 2 (e + 1))

/-- Rounds a quotient to the nearest whole number, a half to the even one. -/
def roundQuotient (numerator denominator : Nat) : Nat :=
  let quotient := numerator / denominator
  let rest := numerator % denominator
  if 2 * rest < denominator then quotient
  else if 2 * rest > denominator then quotient + 1
  else quotient + quotient % 2

/-- The quotient of `numerator / denominator` by a power of two, as a ratio. -/
def scaledDown (numerator denominator : Nat) : Int → Nat × Nat
  | .ofNat e => (numerator, denominator * Nat.pow 2 e)
  | .negSucc e => (numerator * Nat.pow 2 (e + 1), denominator)

def ofMagnitude (negative : Bool) (magnitude : Nat) : Double :=
  if h : magnitude < magnitudeLimit then .finite negative ⟨magnitude, h⟩ else .infinity negative

/-- The double nearest to a positive ratio; of two, the one with an even significand. -/
def ofRatio (negative : Bool) (numerator denominator : Nat) : Double :=
  if numerator = 0 then signedZero negative
  else
    let guess : Int := (numerator.log2 : Int) - denominator.log2 - 53
    let trial := scaledDown numerator denominator guess
    let exponent := if trial.1 < 2 * binade * trial.2 then guess else guess + 1
    let exponent := max exponent (-1074)
    let scaled := scaledDown numerator denominator exponent
    ofMagnitude negative ((exponent + 1074).toNat * binade + roundQuotient scaled.1 scaled.2)

def digitCount (n : Nat) : Nat := (Nat.toDigits 10 n).length

/-- A positive number has at least so many digits, less one at most. -/
def digitsAtLeast (n : Nat) : Nat := n.log2 * 30102 / 100000

def digitsAtMost (n : Nat) : Nat := (n.log2 + 1) * 30103 / 100000 + 1

/--
The double nearest to `digits * Nat.pow 10 exponent`.  Beyond four hundred places on
either side of the point the answer is an infinity or zero whatever the digits.
-/
def ofDecimal (negative : Bool) (digits : Nat) (exponent : Int) : Double :=
  if digits = 0 then signedZero negative
  else if (digitsAtLeast digits : Int) + exponent > 400 then .infinity negative
  else if (digitsAtMost digits : Int) + exponent < -400 then signedZero negative
  else
    match exponent with
    | .ofNat e => ofRatio negative (digits * Nat.pow 10 e) 1
    | .negSucc e => ofRatio negative digits (Nat.pow 10 (e + 1))

def ofInt (n : Int) : Double := ofRatio (n < 0) n.natAbs 1

/-- The number as a multiple of the least positive double. -/
def units (negative : Bool) (magnitude : Nat) : Int :=
  let n : Int := (significand magnitude * Nat.pow 2 (scale magnitude + 1074).toNat : Nat)
  if negative then -n else n

/-- The double nearest to a sum; infinities of both signs have none. -/
def add : Double → Double → Double
  | .finite negative magnitude, .finite negative' magnitude' =>
    let sum := units negative magnitude.val + units negative' magnitude'.val
    ofRatio (sum < 0) sum.natAbs (Nat.pow 2 1074)
  | .infinity negative, .finite _ _ => .infinity negative
  | .finite _ _, .infinity negative => .infinity negative
  | .infinity negative, .infinity negative' =>
    if negative = negative' then .infinity negative else .nan
  | _, _ => .nan

/-- The whole number that a double equals, if it equals one. -/
def toInt? : Double → Option Int
  | .finite negative magnitude =>
    let (numerator, denominator) := ratio magnitude.val
    if numerator % denominator = 0 then
      let n : Int := (numerator / denominator : Nat)
      some (if negative then -n else n)
    else none
  | _ => none

def isZero : Double → Bool
  | .finite _ magnitude => magnitude.val == 0
  | _ => false

/-- At least zero; negative zero is, and `nan` is not. -/
def isNonnegative : Double → Bool
  | .nan => false
  | .infinity negative => !negative
  | .finite negative magnitude => !negative || magnitude.val == 0

/-- Less than zero. -/
def isNegative : Double → Bool
  | .nan => false
  | .infinity negative => negative
  | .finite negative magnitude => negative && magnitude.val != 0

end Double

end LanguageSession
