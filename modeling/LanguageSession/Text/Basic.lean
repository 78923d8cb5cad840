/-!
Texts as sequences of code points.  Unlike `String`, a text may hold surrogate
code points: a JSON escape can name one, although UTF-8 has no form for it.
-/

namespace LanguageSession

abbrev CodePoint := Fin 0x110000

abbrev Text := List CodePoint

namespace CodePoint

theorem char_lt_limit (character : Char) : character.toNat < 0x110000 := by
  have valid := character.valid
  simp only [UInt32.isValidChar, Nat.isValidChar] at valid
  have same : character.toNat = character.val.toNat := rfl
  omega

def ofChar (character : Char) : CodePoint :=
  ⟨character.toNat, char_lt_limit character⟩

instance : Coe Char CodePoint := ⟨ofChar⟩

def ofByte (byte : UInt8) : CodePoint :=
  ⟨byte.toNat, by have := byte.toNat_lt; omega⟩

/-- Code points outside the range count as the replacement character. -/
def ofNat (n : Nat) : CodePoint :=
  if h : n < 0x110000 then ⟨n, h⟩ else 0xFFFD

/-- Stands for bytes that have no reading. -/
def replacement : CodePoint := 0xFFFD

def isHighSurrogate (c : CodePoint) : Bool := 0xD800 ≤ c.val && c.val ≤ 0xDBFF

def isLowSurrogate (c : CodePoint) : Bool := 0xDC00 ≤ c.val && c.val ≤ 0xDFFF

def isSurrogate (c : CodePoint) : Bool := 0xD800 ≤ c.val && c.val ≤ 0xDFFF

end CodePoint

namespace Text

def ofString (s : String) : Text := s.toList.map CodePoint.ofChar

instance : Coe String Text := ⟨ofString⟩

/-- The text as a string; surrogates, which a string cannot hold, are replaced. -/
def toString (text : Text) : String :=
  String.ofList (text.map fun c => if c.isSurrogate then Char.ofNat 0xFFFD else Char.ofNat c.val)

def ofBytes (bytes : List UInt8) : Text := bytes.map CodePoint.ofByte

/-- The digits of a number in a base up to sixteen, small letters above nine. -/
def digits (base n : Nat) : Text := (Nat.toDigits base n).map CodePoint.ofChar

def ofNat (n : Nat) : Text := digits 10 n

def ofInt (n : Int) : Text :=
  if n < 0 then CodePoint.ofChar '-' :: ofNat n.natAbs else ofNat n.natAbs

def padZeros (width : Nat) (text : Text) : Text :=
  List.replicate (width - text.length) (CodePoint.ofChar '0') ++ text

def hex (width n : Nat) : Text := padZeros width (digits 16 n)

def join (separator : Text) (parts : List Text) : Text :=
  List.intercalate separator parts

/-- The pieces between the occurrences of a character, one more than there are of them. -/
def splitAt (separator : CodePoint) : Text → List Text
  | [] => [[]]
  | c :: rest =>
    match splitAt separator rest with
    | [] => [[c]]
    | piece :: pieces => if c = separator then [] :: piece :: pieces else (c :: piece) :: pieces

def dropEndWhile (p : CodePoint → Bool) (text : Text) : Text :=
  (text.reverse.dropWhile p).reverse

/-- Is a text the same as another, or before it in the order of code points? -/
def isAtMost : Text → Text → Bool
  | [], _ => true
  | _ :: _, [] => false
  | c :: first, d :: second => c.val < d.val || (c.val = d.val && isAtMost first second)

def startsWith (text pattern : Text) : Bool := pattern.isPrefixOf text

def endsWith (text pattern : Text) : Bool := pattern.isSuffixOf text

/-- `\r\n` and `\r` become `\n`. -/
def universalNewlines : Text → Text
  | [] => []
  | c :: rest =>
    if c = CodePoint.ofChar '\r' then
      match rest with
      | [] => [CodePoint.ofChar '\n']
      | next :: others =>
        if next = CodePoint.ofChar '\n' then CodePoint.ofChar '\n' :: universalNewlines others
        else CodePoint.ofChar '\n' :: universalNewlines (next :: others)
    else c :: universalNewlines rest

end Text

end LanguageSession
