import LanguageSession.Fault

/-!
Looking into values that may be of the wrong kind.  Only objects have members; arrays,
objects and texts can be gone through.
-/

namespace LanguageSession

namespace Json

def checkMembers (value : Json) : Except Fault Unit :=
  if value.isObject then .ok () else .error (.noMembers value.kindName)

def memberOrEmpty (value : Json) (name : Text) : Except Fault Json := do
  value.checkMembers
  return (value.member? name).getD (.object [])

/-- What a value holds: the items of an array, the names of an object, the characters of a text. -/
def items : Json → Except Fault (List Json)
  | .array items => .ok items
  | .object members => .ok (members.map fun member => .string member.1)
  | .string text => .ok (text.map fun c => .string [c])
  | value => .error (.notIterable value.kindName)

end Json

end LanguageSession
