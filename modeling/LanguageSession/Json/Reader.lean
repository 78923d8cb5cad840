import LanguageSession.Json.Basic
import LanguageSession.Number.Numeral

/-!
Reading JSON texts.  Beside the standard grammar the names `NaN`, `Infinity` and
`-Infinity` are numbers.  Control characters may not stand in strings, an escape
may name a surrogate, and two escapes that name a high and a low surrogate next to
each other are one character.  A problem is reported at the place where the reader
notices it.

Arrays and objects may nest only to a certain depth; a text that goes deeper is
refused where it does, whatever comes after.

The readers take the text that is left and return what remains of it.  Values
nest, so the reader of a value has a bound on its calls; every two calls consume a
character, and twice the length of the text is always enough.
-/

namespace LanguageSession

namespace Json

/-- A value that holds other values. -/
inductive Container where
  | array
  | object
  deriving DecidableEq, Repr

def Container.name : Container → Text
  | .array => "array"
  | .object => "object"

inductive Problem where
  | byteOrderMark
  | expectedValue
  | expectedName
  | expectedColon
  | expectedComma
  | unterminatedString
  | controlCharacter
  | unknownEscape
  | malformedEscape
  | extraData
  | longInteger (digits : Nat)
  /-- An array or an object inside as many others as may nest. -/
  | tooDeep (container : Container)
  | exhausted
  deriving DecidableEq, Repr

/-- A problem and the text from the place of the problem on. -/
structure ReadError where
  problem : Problem
  place : Text
  deriving DecidableEq, Repr

abbrev Reading (α : Type) := Except ReadError (α × Text)

def ch (character : Char) : CodePoint := CodePoint.ofChar character

def isSpace (c : CodePoint) : Bool :=
  c = ch ' ' || c = ch '\t' || c = ch '\n' || c = ch '\r'

def skipSpace (text : Text) : Text := text.dropWhile isSpace

def hexValue? (c : CodePoint) : Option Nat :=
  if 0x30 ≤ c.val && c.val ≤ 0x39 then some (c.val - 0x30)
  else if 0x61 ≤ c.val && c.val ≤ 0x66 then some (c.val - 0x61 + 10)
  else if 0x41 ≤ c.val && c.val ≤ 0x46 then some (c.val - 0x41 + 10)
  else none

/-- What a letter after a backslash stands for. -/
def shortEscape? (c : CodePoint) : Option CodePoint :=
  if c = ch '"' || c = ch '\\' || c = ch '/' then some c
  else if c = ch 'b' then some (ch '\x08')
  else if c = ch 'f' then some (ch '\x0c')
  else if c = ch 'n' then some (ch '\n')
  else if c = ch 'r' then some (ch '\r')
  else if c = ch 't' then some (ch '\t')
  else none

/-- The code unit of four hexadecimal digits. -/
def codeUnit? (first second third fourth : CodePoint) : Option CodePoint := do
  let a ← hexValue? first
  let b ← hexValue? second
  let c ← hexValue? third
  let d ← hexValue? fourth
  some (CodePoint.ofNat (((a * 16 + b) * 16 + c) * 16 + d))

def joinSurrogates (high low : CodePoint) : CodePoint :=
  CodePoint.ofNat (0x10000 + (high.val - 0xD800) * 1024 + (low.val - 0xDC00))

/--
Adds an escaped code unit to the characters read so far, newest first.  `afterHigh`
says that the newest one is a high surrogate written as an escape.
-/
def pushUnit (unit : CodePoint) (afterHigh : Bool) (read : Text) : Text :=
  match afterHigh && unit.isLowSurrogate, read with
  | true, high :: earlier => joinSurrogates high unit :: earlier
  | _, _ => unit :: read

/-- Reads the rest of a string; `opening` is the text from its first quote on. -/
def readString (opening : Text) : Text → Bool → Text → Reading Text
  | [], _, _ => .error ⟨.unterminatedString, opening⟩
  | c :: rest, afterHigh, read =>
    if c = ch '"' then .ok (read.reverse, rest)
    else if c = ch '\\' then
      match rest with
      | [] => .error ⟨.unterminatedString, opening⟩
      | letter :: afterLetter =>
        if letter = ch 'u' then
          match afterLetter with
          | first :: second :: third :: fourth :: next :: others =>
            match codeUnit? first second third fourth with
            | some unit =>
              readString opening (next :: others) unit.isHighSurrogate
                (pushUnit unit afterHigh read)
            | none => .error ⟨.malformedEscape, letter :: afterLetter⟩
          | _ => .error ⟨.malformedEscape, letter :: afterLetter⟩
        else
          match shortEscape? letter with
          | some character => readString opening afterLetter false (character :: read)
          | none => .error ⟨.unknownEscape, c :: rest⟩
    else if c.val < 0x20 then .error ⟨.controlCharacter, c :: rest⟩
    else readString opening rest false (c :: read)

def isDigit (c : CodePoint) : Bool := 0x30 ≤ c.val && c.val ≤ 0x39

def digitValues (digits : Text) : List Nat := digits.map fun c => c.val - 0x30

/-- The digits of a fraction, if a point and a digit follow. -/
def readFraction : Text → Option (Text × Text)
  | [] => none
  | c :: rest =>
    if c = ch '.' && (rest.head?.any isDigit) then
      some (rest.takeWhile isDigit, rest.dropWhile isDigit)
    else none

/-- An exponent, if `e`, an optional sign and a digit follow. -/
def readExponent : Text → Option (Int × Text)
  | [] => none
  | c :: rest =>
    if c = ch 'e' || c = ch 'E' then
      let (negative, unsigned) := Numeral.takeSign rest
      if unsigned.head?.any isDigit then
        let n : Int := Numeral.ofDigits (digitValues (unsigned.takeWhile isDigit))
        some (if negative then -n else n, unsigned.dropWhile isDigit)
      else none
    else none

/-- The digits before the point: a lone zero or digits that start with another one. -/
def readWhole : Text → Option (Text × Text)
  | [] => none
  | c :: rest =>
    if c = ch '0' then some ([c], rest)
    else if isDigit c then some (c :: rest.takeWhile isDigit, rest.dropWhile isDigit)
    else none

/-- Reads a number; `opening` is the text from its first character on. -/
def readNumber (opening : Text) : Reading Json :=
  let (negative, unsigned) : Bool × Text :=
    match opening with
    | c :: rest => if c = ch '-' then (true, rest) else (false, opening)
    | [] => (false, [])
  match readWhole unsigned with
  | none => .error ⟨.expectedValue, opening⟩
  | some (whole, afterWhole) =>
    let fraction := readFraction afterWhole
    let afterFraction := (fraction.map Prod.snd).getD afterWhole
    let exponent := readExponent afterFraction
    let rest := (exponent.map Prod.snd).getD afterFraction
    if fraction.isNone && exponent.isNone then
      if whole.length ≤ Numeral.digitLimit then
        let n : Int := Numeral.ofDigits (digitValues whole)
        .ok (.integer (if negative then -n else n), rest)
      else .error ⟨.longInteger whole.length, opening⟩
    else
      let fractionDigits := (fraction.map Prod.fst).getD []
      let digits := Numeral.ofDigits (digitValues (whole ++ fractionDigits))
      let power := (exponent.map Prod.fst).getD 0 - fractionDigits.length
      .ok (.float (Double.ofDecimal negative digits power), rest)

/-- The values that are written as a word. -/
def words : List (Text × Json) :=
  [("null", .null), ("true", .bool true),
    ("false", .bool false), ("NaN", .float .nan),
    ("Infinity", .float (.infinity false)),
    ("-Infinity", .float (.infinity true))]

def readWord (text : Text) : Option (Json × Text) :=
  (words.find? fun word => text.startsWith word.1).map fun word =>
    (word.2, text.drop word.1.length)

mutual

/-- Reads the value at the front of the text; at most `depth` arrays and objects nest in it. -/
def readValue : Nat → Nat → Text → Reading Json
  | 0, _, text => .error ⟨.exhausted, text⟩
  | _, _, [] => .error ⟨.expectedValue, []⟩
  | bound + 1, depth, c :: rest =>
    if c = ch '"' then
      match readString (c :: rest) rest false [] with
      | .ok (text, after) => .ok (.string text, after)
      | .error error => .error error
    else if c = ch '\x7b' then
      match depth with
      | 0 => .error ⟨.tooDeep .object, c :: rest⟩
      | depth + 1 =>
        let inside := skipSpace rest
        if inside.head? = some (ch '\x7d') then .ok (.object [], inside.drop 1)
        else readMembers bound depth [] inside
    else if c = ch '[' then
      match depth with
      | 0 => .error ⟨.tooDeep .array, c :: rest⟩
      | depth + 1 =>
        let inside := skipSpace rest
        if inside.head? = some (ch ']') then .ok (.array [], inside.drop 1)
        else readItems bound depth [] inside
    else
      match readWord (c :: rest) with
      | some found => .ok found
      | none => readNumber (c :: rest)

/-- Reads the items of an array up to its end; `read` holds the earlier ones, newest first. -/
def readItems : Nat → Nat → List Json → Text → Reading Json
  | 0, _, _, text => .error ⟨.exhausted, text⟩
  | bound + 1, depth, read, text =>
    match readValue bound depth text with
    | .error error => .error error
    | .ok (item, after) =>
      let next := skipSpace after
      if next.head? = some (ch ']') then .ok (.array (item :: read).reverse, next.drop 1)
      else if next.head? = some (ch ',') then
        readItems bound depth (item :: read) (skipSpace (next.drop 1))
      else .error ⟨.expectedComma, next⟩

/-- Reads the members of an object up to its end. -/
def readMembers : Nat → Nat → List (Text × Json) → Text → Reading Json
  | 0, _, _, text => .error ⟨.exhausted, text⟩
  | bound + 1, depth, read, text =>
    if text.head? = some (ch '"') then
      match readString text (text.drop 1) false [] with
      | .error error => .error error
      | .ok (name, afterName) =>
        let colon := skipSpace afterName
        if colon.head? = some (ch ':') then
          match readValue bound depth (skipSpace (colon.drop 1)) with
          | .error error => .error error
          | .ok (value, after) =>
            let members := Association.put name value read
            let next := skipSpace after
            if next.head? = some (ch '\x7d') then .ok (.object members, next.drop 1)
            else if next.head? = some (ch ',') then
              readMembers bound depth members (skipSpace (next.drop 1))
            else .error ⟨.expectedComma, next⟩
        else .error ⟨.expectedColon, colon⟩
    else .error ⟨.expectedName, text⟩

end

/-- Reads a text that holds one value and blanks around it, nested at most so deeply. -/
def readWithin (depth : Nat) (text : Text) : Except ReadError Json :=
  if text.head? = some (ch '\ufeff') then .error ⟨.byteOrderMark, text⟩
  else
    match readValue (2 * text.length + 2) depth (skipSpace text) with
    | .error error => .error error
    | .ok (value, after) =>
      match skipSpace after with
      | [] => .ok value
      | rest => .error ⟨.extraData, rest⟩

def nestingLimit : Nat := 984

def read (text : Text) : Except ReadError Json := readWithin nestingLimit text

def Problem.message : Problem → Text
  | .byteOrderMark => "Unexpected UTF-8 BOM (decode using utf-8-sig)"
  | .expectedValue => "Expecting value"
  | .expectedName => "Expecting property name enclosed in double quotes"
  | .expectedColon => "Expecting ':' delimiter"
  | .expectedComma => "Expecting ',' delimiter"
  | .unterminatedString => "Unterminated string starting at"
  | .controlCharacter => "Invalid control character at"
  | .unknownEscape => "Invalid \\escape"
  | .malformedEscape => "Invalid \\uXXXX escape"
  | .extraData => "Extra data"
  | .longInteger digits =>
    "Exceeds the limit (4300 digits) for integer string conversion: value has " ++
      Text.ofNat digits ++
      " digits; use sys.set_int_max_str_digits() to increase the limit"
  | .tooDeep container =>
    "maximum recursion depth exceeded while decoding a JSON " ++ container.name ++
      " from a unicode string"
  | .exhausted => "Nested too deeply"

/-- Is it said where in the text the problem is? -/
def Problem.hasPlace : Problem → Bool
  | .longInteger _ => false
  | .tooDeep _ => false
  | _ => true

/-- The message with line, column and position counted in the text that was read. -/
def ReadError.message (error : ReadError) (text : Text) : Text :=
  if !error.problem.hasPlace then error.problem.message
  else
    let position := text.length - error.place.length
    let before := text.take position
    let line := before.count (ch '\n') + 1
    let column := (before.reverse.takeWhile fun c => c ≠ ch '\n').length + 1
    error.problem.message ++ ": line " ++ Text.ofNat line ++ " column " ++
      Text.ofNat column ++ " (char " ++ Text.ofNat position ++ ")"

end Json

end LanguageSession
