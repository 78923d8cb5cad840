import LanguageSession.Number.Numeral
import LanguageSession.Text.Utf8

/-!
Header blocks of frames.  A block is a sequence of lines, read one byte a character,
and the first line whose name is `Content-Length` says how long the body is.
-/

namespace LanguageSession

namespace Frame

def lengthName : Text := "content-length:"

/--
The value of a header line named `Content-Length`.  Only the letters `A` to `Z` are
compared without case: no other character of the first 256 has a small form among
the letters of the name.
-/
def lengthValue? (line : Text) : Option Text :=
  if (Numeral.asciiLower line).startsWith lengthName then some (line.drop lengthName.length)
  else none

/-- A value that is no whole number counts as zero; a negative length is no length. -/
def readLength (value : Text) : Option Nat :=
  match (Numeral.toInt? value.trim).getD 0 with
  | .ofNat n => some n
  | .negSucc _ => none

def headerLines (block : Bytes) : List Text :=
  (Text.splitAt (CodePoint.ofChar '\n') (Text.ofBytes block)).map Text.trim

def contentLength (block : Bytes) : Option Nat :=
  ((headerLines block).findSome? lengthValue?).bind readLength

end Frame

end LanguageSession
