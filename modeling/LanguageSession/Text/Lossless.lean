import LanguageSession.Text.Utf8

/-!
Arbitrary bytes as texts, without loss.  The system's own strings, such as the names of
files, are bytes that need not be UTF-8.  As a text each byte that has no reading is kept
as a low surrogate, from U+DC80 to U+DCFF, which stands for this byte alone.
-/

namespace LanguageSession

namespace Lossless

/-- The byte that a surrogate was kept for. -/
def keptByte? (c : CodePoint) : Option UInt8 :=
  if 0xDC80 ≤ c.val && c.val ≤ 0xDCFF then some (UInt8.ofNat (c.val - 0xDC00)) else none

def keep (byte : UInt8) : CodePoint := CodePoint.ofNat (0xDC00 + byte.toNat)

def isStrange (c : CodePoint) : Bool := c.isSurrogate && (keptByte? c).isNone

/--
The first surrogate that stands for no byte, with the surrogates that follow it, whether
these stand for bytes or not.
-/
def findStrange (text : Text) : Option Utf8.SurrogateRun :=
  match text.dropWhile fun c => !isStrange c with
  | [] => none
  | c :: rest =>
    let start := (text.takeWhile fun c => !isStrange c).length
    some ⟨start, start + (rest.takeWhile CodePoint.isSurrogate).length, c⟩

def encodeCodePoint (c : CodePoint) : Bytes :=
  match keptByte? c with
  | some byte => [byte]
  | none => Utf8.encodeCodePoint c

def encode (text : Text) : Except Utf8.SurrogateRun Bytes :=
  match findStrange text with
  | some run => .error run
  | none => .ok (text.flatMap encodeCodePoint)

def decodePiece : Utf8.Piece → Text
  | .character c => [c]
  | .malformed bytes _ => bytes.map keep

def decode (bytes : Bytes) : Text := (Utf8.pieces bytes).flatMap decodePiece

end Lossless

end LanguageSession
