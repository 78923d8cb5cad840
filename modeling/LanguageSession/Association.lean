/-!
Association lists that keep the order in which keys were first added.
-/

namespace LanguageSession

namespace Association

variable {Key Value : Type} [DecidableEq Key]

/-- Replaces the value of a key in its place, or adds the key at the end. -/
def put (key : Key) (value : Value) : List (Key × Value) → List (Key × Value)
  | [] => [(key, value)]
  | entry :: rest =>
    if entry.1 = key then (key, value) :: rest else entry :: put key value rest

end Association

end LanguageSession
