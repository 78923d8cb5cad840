import LanguageSession.Json.Basic
import LanguageSession.Number.Decimal
import LanguageSession.Text.Printable

/-!
Values in messages for people.  A text on its own is shown bare; everywhere else
texts are quoted, with the quote that needs fewer escapes, and characters that are
not printable are written as escapes.
-/

namespace LanguageSession

namespace Json

private def apostrophe : CodePoint := CodePoint.ofChar '\''

private def quotation : CodePoint := CodePoint.ofChar '"'

/-- A character inside quotes of the given kind. -/
def quoteCharacter (mark c : CodePoint) : Text :=
  if c = mark || c.val = 0x5C then [CodePoint.ofChar '\\', c]
  else if c.val = 0x0A then "\\n"
  else if c.val = 0x0D then "\\r"
  else if c.val = 0x09 then "\\t"
  else if c.isPrintable then [c]
  else if c.val < 0x100 then "\\x" ++ Text.hex 2 c.val
  else if c.val < 0x10000 then "\\u" ++ Text.hex 4 c.val
  else "\\U" ++ Text.hex 8 c.val

/-- Apostrophes around the text, or quotation marks if it holds only apostrophes. -/
def quoted (text : Text) : Text :=
  let mark := if text.contains apostrophe && !text.contains quotation then quotation else apostrophe
  mark :: (text.flatMap (quoteCharacter mark) ++ [mark])

mutual

/-- The form in which texts are quoted. -/
def inspect : Json → Text
  | .null => "None"
  | .bool true => "True"
  | .bool false => "False"
  | .integer n => Text.ofInt n
  | .float d => d.toText
  | .string text => quoted text
  | .array [] => "[]"
  | .array (item :: rest) => CodePoint.ofChar '[' :: (inspect item ++ inspectItems rest)
  | .object [] => [CodePoint.ofChar '\x7b', CodePoint.ofChar '\x7d']
  | .object ((name, value) :: rest) =>
    CodePoint.ofChar '\x7b' ::
      (quoted name ++ ": " ++ inspect value ++ inspectMembers rest)
  | .foreign kind => "<" ++ kind.name ++ ">"

def inspectItems : List Json → Text
  | [] => [CodePoint.ofChar ']']
  | item :: rest => ", " ++ inspect item ++ inspectItems rest

def inspectMembers : List (Text × Json) → Text
  | [] => [CodePoint.ofChar '\x7d']
  | (name, value) :: rest =>
    ", " ++ quoted name ++ ": " ++ inspect value ++
      inspectMembers rest

end

def display : Json → Text
  | .string text => text
  | value => inspect value

end Json

end LanguageSession
