import LanguageSession.Number.Double
import LanguageSession.Text.Basic

/-!
Decimal texts of doubles.  The short form has the fewest digits that read back as
the same number, and among those the nearest ones.  It is found by trying one
digit, two digits and so on, each time with the two decimals around the number,
and by reading the candidates back.  The number is written positionally while its
decimal exponent is at least -4 and less than 16.
-/

namespace LanguageSession

namespace Double

/-- The position `point` with `10 ^ (point - 1) ≤ magnitude < 10 ^ point`. -/
def decimalPoint (magnitude : Nat) : Int :=
  let (numerator, denominator) := ratio magnitude
  (digitCount (numerator * Nat.pow 10 350 / denominator) : Int) - 350

/-- The magnitude with its decimal point moved `places` to the right, as a ratio. -/
def shifted (magnitude : Nat) (places : Int) : Nat × Nat :=
  let (numerator, denominator) := ratio magnitude
  match places with
  | .ofNat e => (numerator * Nat.pow 10 e, denominator)
  | .negSucc e => (numerator, denominator * Nat.pow 10 (e + 1))

/--
The two neighbours among the decimals `n * 10 ^ (point - places)`, the nearer one first.
-/
def neighbours (magnitude : Nat) (point : Int) (places : Nat) : List Nat :=
  let (numerator, denominator) := shifted magnitude (places - point)
  let below := numerator / denominator
  if roundQuotient numerator denominator = below then [below, below + 1] else [below + 1, below]

/-- Removes the zeros at the right end, at most `limit` of them. -/
def stripZeros : Nat → Nat → Nat
  | 0, digits => digits
  | limit + 1, digits => if digits % 10 = 0 then stripZeros limit (digits / 10) else digits

def decimalWith (magnitude : Nat) (point : Int) (places : Nat) : Option Nat :=
  (neighbours magnitude point places).find? fun digits =>
    ofDecimal false digits (point - places) = ofMagnitude false magnitude

/--
The digits and the point of the shortest decimal.  Seventeen digits are always
enough; should they not be, the seventeen nearest ones stand in.
-/
def shortest (magnitude : Nat) : Text × Int :=
  let point := decimalPoint magnitude
  let found := (List.range 17).findSome? fun n =>
    (decimalWith magnitude point (n + 1)).map fun digits => (digits, n + 1)
  let (digits, places) := found.getD ((neighbours magnitude point 17).headD 0, 17)
  -- rounding up to a power of ten moves the point by one
  (Text.ofNat (stripZeros places digits), point + digitCount digits - places)

/-- Lays digits out around the point. -/
def layout (digits : Text) (point : Int) : Text :=
  let nought := CodePoint.ofChar '0'
  let dot := CodePoint.ofChar '.'
  if -4 < point && point ≤ 16 then
    if point ≤ 0 then
      nought :: dot :: (List.replicate (-point).toNat nought ++ digits)
    else if digits.length ≤ point.toNat then
      digits ++ List.replicate (point.toNat - digits.length) nought ++ [dot, nought]
    else digits.take point.toNat ++ dot :: digits.drop point.toNat
  else
    let exponent := point - 1
    let fraction := if digits.length ≤ 1 then [] else dot :: digits.drop 1
    let sign := CodePoint.ofChar (if exponent < 0 then '-' else '+')
    digits.take 1 ++ fraction ++
      CodePoint.ofChar 'e' :: sign :: Text.padZeros 2 (Text.ofNat exponent.natAbs)

def signed (negative : Bool) (text : Text) : Text :=
  if negative then CodePoint.ofChar '-' :: text else text

/-- The short form of a finite number. -/
def finiteText (negative : Bool) (magnitude : Nat) : Text :=
  signed negative <|
    if magnitude = 0 then "0.0"
    else
      let (digits, point) := shortest magnitude
      layout digits point

/-- The short form, with the infinities and `nan` by name. -/
def toText : Double → Text
  | .nan => "nan"
  | .infinity negative => signed negative "inf"
  | .finite negative magnitude => finiteText negative magnitude.val

/-- The form with one digit after the point, a half rounded to the even digit. -/
def toTenths : Double → Text
  | .nan => "nan"
  | .infinity negative => signed negative "inf"
  | .finite negative magnitude =>
    let (numerator, denominator) := ratio magnitude.val
    let tenths := roundQuotient (numerator * 10) denominator
    signed negative <|
      Text.ofNat (tenths / 10) ++ CodePoint.ofChar '.' :: Text.ofNat (tenths % 10)

end Double

end LanguageSession
