import LanguageSession.Json.Basic
import LanguageSession.Number.Decimal

/-!
Writing JSON texts.  The compact form has no blanks and keeps every character that
need not be escaped; the spaced form puts a blank after commas and colons and writes
everything outside the printable ASCII characters as escapes of code units.  A value
without a JSON form is not written at all, and `firstForeign?` finds the first one
in the order of writing.
-/

namespace LanguageSession

namespace Json

mutual

/-- The first value without a JSON form. -/
def firstForeign? : Json → Option Foreign
  | .foreign kind => some kind
  | .array items => firstForeignItem? items
  | .object members => firstForeignMember? members
  | _ => none

def firstForeignItem? : List Json → Option Foreign
  | [] => none
  | item :: rest => (firstForeign? item).or (firstForeignItem? rest)

def firstForeignMember? : List (Text × Json) → Option Foreign
  | [] => none
  | (_, value) :: rest => (firstForeign? value).or (firstForeignMember? rest)

end

/-- Separators and escapes of a written form. -/
structure Form where
  comma : Text
  colon : Text
  /-- Only printable ASCII characters stand for themselves. -/
  ascii : Bool
  deriving DecidableEq, Repr

def compactForm : Form := ⟨",", ":", false⟩

def spacedForm : Form := ⟨", ", ": ", true⟩

/-- Characters with an escape of two letters. -/
def letterEscape? (c : CodePoint) : Option Text :=
  if c = CodePoint.ofChar '"' then some ("\\\"")
  else if c = CodePoint.ofChar '\\' then some ("\\\\")
  else if c.val = 0x0A then some ("\\n")
  else if c.val = 0x0D then some ("\\r")
  else if c.val = 0x09 then some ("\\t")
  else if c.val = 0x0C then some ("\\f")
  else if c.val = 0x08 then some ("\\b")
  else none

def unitEscape (n : Nat) : Text := "\\u" ++ Text.hex 4 n

/-- A character beyond the first 65536 needs two code units. -/
def unitEscapes (c : CodePoint) : Text :=
  if c.val < 0x10000 then unitEscape c.val
  else
    unitEscape (0xD800 + (c.val - 0x10000) / 1024) ++
      unitEscape (0xDC00 + (c.val - 0x10000) % 1024)

def writeCharacter (form : Form) (c : CodePoint) : Text :=
  match letterEscape? c with
  | some escape => escape
  | none =>
    if c.val < 0x20 then unitEscape c.val
    else if form.ascii && 0x7E < c.val then unitEscapes c
    else [c]

def writeString (form : Form) (text : Text) : Text :=
  let quote := CodePoint.ofChar '"'
  quote :: (text.flatMap (writeCharacter form) ++ [quote])

def writeDouble : Double → Text
  | .nan => "NaN"
  | .infinity negative => Double.signed negative "Infinity"
  | .finite negative magnitude => Double.finiteText negative magnitude.val

mutual

def write (form : Form) : Json → Text
  | .null => "null"
  | .bool true => "true"
  | .bool false => "false"
  | .integer n => Text.ofInt n
  | .float d => writeDouble d
  | .string text => writeString form text
  | .array [] => "[]"
  | .array (item :: rest) =>
    CodePoint.ofChar '[' :: (write form item ++ writeItems form rest)
  | .object [] => [CodePoint.ofChar '\x7b', CodePoint.ofChar '\x7d']
  | .object ((name, value) :: rest) =>
    CodePoint.ofChar '\x7b' ::
      (writeString form name ++ form.colon ++ write form value ++ writeMembers form rest)
  | .foreign _ => []

def writeItems (form : Form) : List Json → Text
  | [] => [CodePoint.ofChar ']']
  | item :: rest => form.comma ++ write form item ++ writeItems form rest

/-- The members after the first one and the closing brace. -/
def writeMembers (form : Form) : List (Text × Json) → Text
  | [] => [CodePoint.ofChar '\x7d']
  | (name, value) :: rest =>
    form.comma ++ writeString form name ++ form.colon ++ write form value ++
      writeMembers form rest

end

def compact (value : Json) : Text := write compactForm value

def spaced (value : Json) : Text := write spacedForm value

end Json

end LanguageSession
