import LanguageSession.Fault

/-!
Cutting a command line into words.  Blanks separate words.  Between apostrophes
every character stands for itself; between quotation marks a backslash takes away the
meaning of a quotation mark and of a backslash and is kept before anything else; outside
of quotes it takes away the meaning of any character.
-/

namespace LanguageSession

namespace CommandWords

/-- Where the reader of a command line is. -/
inductive Mode where
  | between
  | word
  | apostrophes
  | quotationMarks
  /-- After a backslash outside of quotes. -/
  | escape
  /-- After a backslash between quotation marks. -/
  | quotedEscape
  deriving DecidableEq, Repr

def isSeparator (c : CodePoint) : Bool :=
  c = CodePoint.ofChar ' ' || c = CodePoint.ofChar '\t' || c = CodePoint.ofChar '\r' ||
    c = CodePoint.ofChar '\n'

def apostrophe : CodePoint := CodePoint.ofChar '\''

def quotationMark : CodePoint := CodePoint.ofChar '"'

def backslash : CodePoint := CodePoint.ofChar '\\'

/--
Reads the rest of a command line.  `current` holds the characters of the word that has
been begun, newest first, and `words` the words before it, newest first.
-/
def read : Mode → Text → List Text → Text → Except QuotingError (List Text)
  | .between, _, words, [] => .ok words.reverse
  | .word, current, words, [] => .ok (current.reverse :: words).reverse
  | .apostrophes, _, _, [] => .error .openQuotation
  | .quotationMarks, _, _, [] => .error .openQuotation
  | .escape, _, _, [] => .error .danglingEscape
  | .quotedEscape, _, _, [] => .error .danglingEscape
  | .between, current, words, c :: rest =>
    if isSeparator c then read .between current words rest
    else if c = backslash then read .escape [] words rest
    else if c = apostrophe then read .apostrophes [] words rest
    else if c = quotationMark then read .quotationMarks [] words rest
    else read .word [c] words rest
  | .word, current, words, c :: rest =>
    if isSeparator c then read .between [] (current.reverse :: words) rest
    else if c = backslash then read .escape current words rest
    else if c = apostrophe then read .apostrophes current words rest
    else if c = quotationMark then read .quotationMarks current words rest
    else read .word (c :: current) words rest
  | .apostrophes, current, words, c :: rest =>
    if c = apostrophe then read .word current words rest
    else read .apostrophes (c :: current) words rest
  | .quotationMarks, current, words, c :: rest =>
    if c = quotationMark then read .word current words rest
    else if c = backslash then read .quotedEscape current words rest
    else read .quotationMarks (c :: current) words rest
  | .escape, current, words, c :: rest => read .word (c :: current) words rest
  | .quotedEscape, current, words, c :: rest =>
    if c = quotationMark || c = backslash then read .quotationMarks (c :: current) words rest
    else read .quotationMarks (c :: backslash :: current) words rest

def split (line : Text) : Except QuotingError (List Text) := read .between [] [] line

end CommandWords

end LanguageSession
