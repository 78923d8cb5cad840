import LanguageSession.Association
import LanguageSession.Number.Double
import LanguageSession.Text.Basic

/-!
JSON values.  Numbers written without a point or an exponent are whole numbers of
any size, all others are doubles.  The members of an object keep the order in which
they were added.  A value that has no JSON form may stand anywhere in a tree; only
its kind is known, and it matters only when the tree is to be written.
-/

namespace LanguageSession

/-- Kinds of values without a JSON form. -/
inductive Foreign where
  | object
  | bytes
  | set
  | complex
  deriving DecidableEq, Repr

inductive Json where
  | null
  | bool (value : Bool)
  | integer (value : Int)
  | float (value : Double)
  | string (value : Text)
  | array (items : List Json)
  | object (members : List (Text × Json))
  | foreign (kind : Foreign)
  deriving Repr

namespace Json

instance : Inhabited Json := ⟨.null⟩

instance : Coe Text Json := ⟨.string⟩

instance : Coe Bool Json := ⟨.bool⟩

instance : Coe Int Json := ⟨.integer⟩

def nat (n : Nat) : Json := .integer n

def literal (s : String) : Json := .string (Text.ofString s)

/-- The value of a member, if this is an object with that member. -/
def member? (value : Json) (name : Text) : Option Json :=
  match value with
  | .object members => members.lookup name
  | _ => none

def member (value : Json) (name : Text) : Json := (value.member? name).getD .null

def hasMember (value : Json) (name : Text) : Bool := (value.member? name).isSome

def isNull : Json → Bool
  | .null => true
  | _ => false

def isObject : Json → Bool
  | .object _ => true
  | _ => false

def text? : Json → Option Text
  | .string text => some text
  | _ => none

def array? : Json → Option (List Json)
  | .array items => some items
  | _ => none

/-- Values that count as absent: null, false, zeros and everything empty. -/
def isEmpty : Json → Bool
  | .null => true
  | .bool value => !value
  | .integer value => value == 0
  | .float value => value.isZero
  | .string text => text.isEmpty
  | .array items => items.isEmpty
  | .object members => members.isEmpty
  | .foreign _ => false

/-- The short names of the kinds of values. -/
def kindName : Json → Text
  | .null => "NoneType"
  | .bool _ => "bool"
  | .integer _ => "int"
  | .float _ => "float"
  | .string _ => "str"
  | .array _ => "list"
  | .object _ => "dict"
  | .foreign .object => "object"
  | .foreign .bytes => "bytes"
  | .foreign .set => "set"
  | .foreign .complex => "complex"

end Json

def Foreign.name : Foreign → Text
  | .object => "object"
  | .bytes => "bytes"
  | .set => "set"
  | .complex => "complex"

end LanguageSession
