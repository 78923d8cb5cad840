import LanguageSession.Number.Decimal

/-!
Lengths of time in seconds, as they are configured: whole numbers or doubles.  A clock
counts nanoseconds and cannot count for ever, so a length that is too great for it is
refused when somebody would have to wait for it.
-/

namespace LanguageSession

inductive Duration where
  | whole (seconds : Int)
  | decimal (seconds : Double)
  deriving DecidableEq, Repr

/-- Why a length of time cannot be waited for. -/
inductive TimeError where
  | negative
  /-- A whole number greater than all doubles. -/
  | tooGreat
  /-- More than a clock can count. -/
  | tooLong
  deriving DecidableEq, Repr

def TimeError.message : TimeError → Text
  | .negative => "'timeout' must be a non-negative number"
  | .tooGreat => "int too large to convert to float"
  | .tooLong => "timestamp too large to convert to C _PyTime_t"

namespace Duration

/-- A whole number is written without a point. -/
def toText : Duration → Text
  | .whole seconds => Text.ofInt seconds
  | .decimal seconds => seconds.toText

def toDouble : Duration → Except TimeError Double
  | .whole seconds =>
    match Double.ofInt seconds with
    | .infinity _ => .error .tooGreat
    | double => .ok double
  | .decimal seconds => .ok seconds

def toTenths (duration : Duration) : Except TimeError Text :=
  duration.toDouble.map Double.toTenths

def isNegative : Duration → Bool
  | .whole seconds => seconds < 0
  | .decimal seconds => seconds.isNegative

/-- Whole lengths are added as whole numbers, all others as doubles. -/
def add : Duration → Duration → Except TimeError Duration
  | .whole first, .whole second => .ok (.whole (first + second))
  | first, second => do return .decimal ((← first.toDouble).add (← second.toDouble))

/-- A clock counts up to this number of nanoseconds: two to the power of 63. -/
def clockLimit : Nat := 0x8000000000000000

/--
Is a length more than a clock can count?  Nanoseconds are first rounded to a double,
and just below the limit the doubles are 1024 apart.
-/
def exceedsClock : Duration → Bool
  | .whole seconds => (clockLimit : Int) ≤ seconds * 1000000000
  | .decimal .nan => false
  | .decimal (.infinity negative) => !negative
  | .decimal (.finite negative magnitude) =>
    let (numerator, denominator) := Double.ratio magnitude.val
    !negative && (clockLimit - 512) * denominator ≤ numerator * 1000000000

/-- Waits in vain for so long. -/
def await (duration : Duration) : Except TimeError Unit :=
  if duration.exceedsClock then .error .tooLong else .ok ()

end Duration

end LanguageSession
