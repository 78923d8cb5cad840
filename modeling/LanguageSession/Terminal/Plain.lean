import LanguageSession.Terminal.Output

/-!
Output for terminals that know no styles: lines of text without markup.
-/

namespace LanguageSession

namespace Terminal

/-- What stands in brackets is a style if it begins with a small letter or a slash. -/
def isStyle (inner : Text) : Bool :=
  match inner with
  | [] => false
  | c :: _ => (0x61 ≤ c.val && c.val ≤ 0x7A) || c = CodePoint.ofChar '/'

/--
Removes styles from a text.  `pending` is what follows the last bracket that is open,
newest character first.
-/
def unstyleFrom : Option Text → Text → Text
  | none, [] => []
  | some inner, [] => CodePoint.ofChar '[' :: inner.reverse
  | none, c :: rest =>
    if c = CodePoint.ofChar '[' then unstyleFrom (some []) rest else c :: unstyleFrom none rest
  | some inner, c :: rest =>
    if c = CodePoint.ofChar ']' then
      let opened := inner.reverse
      if isStyle opened then unstyleFrom none rest
      else CodePoint.ofChar '[' :: (opened ++ c :: unstyleFrom none rest)
    else if c = CodePoint.ofChar '[' then
      CodePoint.ofChar '[' :: (inner.reverse ++ unstyleFrom (some []) rest)
    else unstyleFrom (some (c :: inner)) rest

def unstyle (text : Text) : Text := unstyleFrom none text

/-- The lines of an output.  A line that was given options is shown as it is. -/
def Output.lines : Output → List Text
  | .line text options => [if options.isEmpty then unstyle text else text]
  | .json text => [text]
  | .table title columns rows =>
    title :: Text.join "  " (columns.map Column.header) ::
      rows.map fun row => Text.join "  " (row.map unstyle)

end Terminal

end LanguageSession
