import LanguageSession.Number.Double
import LanguageSession.Text.Blank
import LanguageSession.Text.Digit

/-!
Numbers written by people, in headers, settings and arguments.  Digits may be of
any script, single underscores may stand between digits, and blanks may surround
the number.  A whole number has at most 4300 digits.
-/

namespace LanguageSession

namespace Numeral

def digitLimit : Nat := 4300

/--
Blanks that may surround a number: the blank characters except the four
information separators.
-/
def isPadding (c : CodePoint) : Bool := c.isBlank && !(0x1C ≤ c.val && c.val ≤ 0x1F)

def strip (text : Text) : Text := Text.dropEndWhile isPadding (text.dropWhile isPadding)

/-- An optional sign and what follows it; `true` for a minus. -/
def takeSign : Text → Bool × Text
  | [] => (false, [])
  | c :: rest =>
    if c = CodePoint.ofChar '-' then (true, rest)
    else if c = CodePoint.ofChar '+' then (false, rest)
    else (false, c :: rest)

/--
The digits at the front, where a single underscore may stand between two digits,
and the rest of the text.  An underscore in any other place stays in the rest.
-/
def takeDigits : Text → List Nat × Text
  | [] => ([], [])
  | c :: rest =>
    match c.digit? with
    | none => ([], c :: rest)
    | some digit =>
      match rest with
      | [] => ([digit], [])
      | next :: others =>
        let (digits, left) :=
          if next = CodePoint.ofChar '_' then
            match takeDigits others with
            | ([], _) => ([], next :: others)
            | taken => taken
          else takeDigits (next :: others)
        (digit :: digits, left)

def ofDigits (digits : List Nat) : Nat := digits.foldl (fun n digit => n * 10 + digit) 0

/-- The whole number that a text denotes. -/
def toInt? (text : Text) : Option Int :=
  let (negative, unsigned) := takeSign (strip text)
  match takeDigits unsigned with
  | ([], _) => none
  | (digits, []) =>
    if digits.length ≤ digitLimit then
      let n : Int := ofDigits digits
      some (if negative then -n else n)
    else none
  | (_, _ :: _) => none

/-- Letters compared without case; only the letters `A` to `Z` have a small form here. -/
def asciiLower (text : Text) : Text :=
  text.map fun c => if 0x41 ≤ c.val && c.val ≤ 0x5A then CodePoint.ofNat (c.val + 32) else c

/-- A fraction after a point, empty if there is no point. -/
def takeFraction : Text → List Nat × Text
  | [] => ([], [])
  | c :: rest =>
    if c = CodePoint.ofChar '.' then takeDigits rest else ([], c :: rest)

/-- An exponent, zero if none is written. -/
def takeExponent : Text → Option Int
  | [] => some 0
  | c :: rest =>
    if c = CodePoint.ofChar 'e' || c = CodePoint.ofChar 'E' then
      let (negative, unsigned) := takeSign rest
      match takeDigits unsigned with
      | ([], _) => none
      | (digits, []) =>
        let n : Int := ofDigits digits
        some (if negative then -n else n)
      | (_, _ :: _) => none
    else none

/-- The double that a text denotes. -/
def toDouble? (text : Text) : Option Double :=
  let (negative, unsigned) := takeSign (strip text)
  let name := asciiLower unsigned
  if name = "inf" || name = "infinity" then some (.infinity negative)
  else if name = "nan" then some .nan
  else
    let (whole, afterWhole) := takeDigits unsigned
    let (fraction, afterFraction) := takeFraction afterWhole
    if whole.isEmpty && fraction.isEmpty then none
    else
      (takeExponent afterFraction).map fun exponent =>
        Double.ofDecimal negative (ofDigits (whole ++ fraction)) (exponent - fraction.length)

end Numeral

end LanguageSession
