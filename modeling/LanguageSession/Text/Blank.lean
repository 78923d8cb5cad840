import LanguageSession.Text.Basic

/-!
Blank characters and trimming.  A character is blank when it separates words or
lines: the Unicode class of white space together with the four information
separators.  Trimming removes the blank characters at both ends of a text.
-/

namespace LanguageSession

def blankRanges : List (Nat × Nat) :=
  [(0x9, 0xD), (0x1C, 0x20), (0x85, 0x85), (0xA0, 0xA0), (0x1680, 0x1680), (0x2000, 0x200A),
   (0x2028, 0x2029), (0x202F, 0x202F), (0x205F, 0x205F), (0x3000, 0x3000)]

namespace CodePoint

def isBlank (c : CodePoint) : Bool :=
  blankRanges.any fun range => range.1 ≤ c.val && c.val ≤ range.2

end CodePoint

namespace Text

def trimStart (text : Text) : Text := text.dropWhile CodePoint.isBlank

def trimEnd (text : Text) : Text := (text.reverse.dropWhile CodePoint.isBlank).reverse

def trim (text : Text) : Text := trimEnd (trimStart text)

/-- Every character is blank; the empty text is blank too. -/
def isBlank (text : Text) : Bool := text.all CodePoint.isBlank

end Text

end LanguageSession
