import LanguageSession.Fault

/-!
JSON values as keys.  Numbers are the same key when they are equal as numbers, and
the truth values count as one and zero; every other value is the same key only as
itself.  The double that is not a number is one value too, and the same key as itself.
Lists and objects cannot be used as keys.
-/

namespace LanguageSession

namespace Json

/-- The number of a value, whole if it is one. -/
inductive Number where
  | whole (n : Int)
  | fraction (d : Double)
  deriving DecidableEq, Repr

def number? : Json → Option Number
  | .bool value => some (.whole (if value then 1 else 0))
  | .integer n => some (.whole n)
  | .float d =>
    match d.toInt? with
    | some n => some (.whole n)
    | none => some (.fraction d)
  | _ => none

/-- Do two values stand for the same key? -/
def sameKey (a b : Json) : Bool :=
  match a, b with
  | .null, .null => true
  | .string s, .string t => s = t
  | _, _ =>
    match number? a, number? b with
    | some m, some n => m = n
    | _, _ => false

/-- Lists and objects are refused. -/
def checkKey (value : Json) : Except Fault Unit :=
  match value with
  | .array _ => .error (.unhashable value.kindName)
  | .object _ => .error (.unhashable value.kindName)
  | _ => .ok ()

end Json

end LanguageSession
