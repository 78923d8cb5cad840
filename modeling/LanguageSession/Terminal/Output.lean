import LanguageSession.Json.Basic

/-!
What the program asks a terminal to show: lines with markup, JSON texts and tables.
How these are laid out is up to the terminal.
-/

namespace LanguageSession

namespace Terminal

structure Column where
  header : Text
  options : List (Text × Json) := []
  deriving Repr

inductive Output where
  | line (text : Text) (options : List (Text × Json))
  | json (text : Text)
  | table (title : Text) (columns : List Column) (rows : List (List Text))
  deriving Repr

end Terminal

end LanguageSession
