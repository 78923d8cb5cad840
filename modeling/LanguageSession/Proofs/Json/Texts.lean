import Mathlib
import LanguageSession.Json.Basic

/-!
# What stands inside a value

The values inside a value in the order in which they are written, and all its strings and
names of members.
-/

namespace LanguageSession

namespace Json

mutual

/-- The value and all values in it, in the order in which they are written. -/
def parts : Json → List Json
  | .array items => .array items :: itemParts items
  | .object members => .object members :: memberParts members
  | value => [value]

def itemParts : List Json → List Json
  | [] => []
  | item :: rest => parts item ++ itemParts rest

def memberParts : List (Text × Json) → List Json
  | [] => []
  | (_, value) :: rest => parts value ++ memberParts rest

end

/-- The text of a string, and the names of the members of an object. -/
def ownTexts : Json → List Text
  | .string text => [text]
  | .object members => members.map Prod.fst
  | _ => []

/-- All strings and all names of members, at any depth. -/
def texts (value : Json) : List Text := value.parts.flatMap ownTexts

theorem itemParts_eq (items : List Json) : itemParts items = items.flatMap parts := by
  induction items with
  | nil => rfl
  | cons item rest ih => rw [itemParts, ih, List.flatMap_cons]

theorem memberParts_eq (members : List (Text × Json)) :
    memberParts members = members.flatMap fun member => parts member.2 := by
  induction members with
  | nil => rfl
  | cons member rest ih => rw [memberParts, ih, List.flatMap_cons]

theorem texts_array (items : List Json) : (Json.array items).texts = items.flatMap texts := by
  rw [texts, parts, List.flatMap_cons, itemParts_eq, List.flatMap_assoc]
  rfl

theorem texts_object (members : List (Text × Json)) :
    (Json.object members).texts =
      members.map Prod.fst ++ members.flatMap fun member => member.2.texts := by
  rw [texts, parts, List.flatMap_cons, memberParts_eq, List.flatMap_assoc]
  rfl

end Json

end LanguageSession
