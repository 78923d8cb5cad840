import LanguageSession.Text.Basic

/-!
UTF-8.  Encoding fails exactly on surrogates and tells where the first run of
them stands.  Decoding is a machine that reads one byte at a time and keeps the
sequence that is not finished yet, so that reading may stop after any byte and go
on later.  The machine says what each byte completes; the strict decoder stops at
the first malformed sequence and the lenient one puts a replacement character in
the place of each.
-/

namespace LanguageSession

abbrev Bytes := List UInt8

namespace Utf8

/-- The bytes of one code point by its size; surrogates get the bytes their number has. -/
def encodeCodePoint (c : CodePoint) : Bytes :=
  if c.val < 0x80 then [UInt8.ofNat c.val]
  else if c.val < 0x800 then
    [UInt8.ofNat (0xC0 + c.val / 64), UInt8.ofNat (0x80 + c.val % 64)]
  else if c.val < 0x10000 then
    [UInt8.ofNat (0xE0 + c.val / 4096), UInt8.ofNat (0x80 + c.val / 64 % 64),
      UInt8.ofNat (0x80 + c.val % 64)]
  else
    [UInt8.ofNat (0xF0 + c.val / 262144), UInt8.ofNat (0x80 + c.val / 4096 % 64),
      UInt8.ofNat (0x80 + c.val / 64 % 64), UInt8.ofNat (0x80 + c.val % 64)]

/-- The bytes of a text all of whose code points are scalar values. -/
def bytesOf (text : Text) : Bytes := text.flatMap encodeCodePoint

/-- The first maximal run of surrogates: its start, its last position and its first member. -/
structure SurrogateRun where
  start : Nat
  last : Nat
  member : CodePoint
  deriving DecidableEq, Repr

def findSurrogates (text : Text) : Option SurrogateRun :=
  match text.dropWhile (fun c => !c.isSurrogate) with
  | [] => none
  | c :: rest =>
    let start := (text.takeWhile fun c => !c.isSurrogate).length
    some ⟨start, start + (rest.takeWhile CodePoint.isSurrogate).length, c⟩

def encode (text : Text) : Except SurrogateRun Bytes :=
  match findSurrogates text with
  | some run => .error run
  | none => .ok (bytesOf text)

/-- A sequence whose last bytes are still to come. -/
structure Unfinished where
  /-- The number that the bytes read so far spell. -/
  value : Nat
  /-- How many bytes have been read, newest first. -/
  seen : Bytes
  /-- How many continuation bytes are missing, not counting the next one. -/
  more : Nat
  /-- The least and the greatest next byte that can go on. -/
  low : Nat
  high : Nat
  deriving DecidableEq, Repr

inductive Defect where
  | invalidStart
  | invalidContinuation
  | truncated
  deriving DecidableEq, Repr

/-- What a byte completes: characters and sequences that turn out to be malformed. -/
inductive Piece where
  | character (c : CodePoint)
  | malformed (bytes : Bytes) (defect : Defect)
  deriving DecidableEq, Repr

/-- Reads a byte that starts a sequence. -/
def start (byte : UInt8) : Option Unfinished × List Piece :=
  let n := byte.toNat
  if n < 0x80 then (none, [.character (CodePoint.ofByte byte)])
  else if n < 0xC2 then (none, [.malformed [byte] .invalidStart])
  else if n < 0xE0 then (some ⟨n - 0xC0, [byte], 0, 0x80, 0xBF⟩, [])
  else if n = 0xE0 then (some ⟨0, [byte], 1, 0xA0, 0xBF⟩, [])
  else if n = 0xED then (some ⟨0xD, [byte], 1, 0x80, 0x9F⟩, [])
  else if n < 0xF0 then (some ⟨n - 0xE0, [byte], 1, 0x80, 0xBF⟩, [])
  else if n = 0xF0 then (some ⟨0, [byte], 2, 0x90, 0xBF⟩, [])
  else if n < 0xF4 then (some ⟨n - 0xF0, [byte], 2, 0x80, 0xBF⟩, [])
  else if n = 0xF4 then (some ⟨4, [byte], 2, 0x80, 0x8F⟩, [])
  else (none, [.malformed [byte] .invalidStart])

/-- Reads one byte. -/
def step : Option Unfinished → UInt8 → Option Unfinished × List Piece
  | none, byte => start byte
  | some unfinished, byte =>
    if unfinished.low ≤ byte.toNat && byte.toNat ≤ unfinished.high then
      let value := unfinished.value * 64 + (byte.toNat - 0x80)
      match unfinished.more with
      | 0 => (none, [.character (CodePoint.ofNat value)])
      | more + 1 => (some ⟨value, byte :: unfinished.seen, more, 0x80, 0xBF⟩, [])
    else
      let (next, pieces) := start byte
      (next, .malformed unfinished.seen.reverse .invalidContinuation :: pieces)

def finish : Option Unfinished → List Piece
  | none => []
  | some unfinished => [.malformed unfinished.seen.reverse .truncated]

/-- One step of a run that collects the pieces, newest first. -/
def collect (state : Option Unfinished × List Piece) (byte : UInt8) :
    Option Unfinished × List Piece :=
  let (next, pieces) := step state.1 byte
  (next, pieces.reverse ++ state.2)

def pieces (bytes : Bytes) : List Piece :=
  let (last, collected) := bytes.foldl collect (none, [])
  collected.reverse ++ finish last

def Piece.orReplacement : Piece → CodePoint
  | .character c => c
  | .malformed _ _ => CodePoint.replacement

def decodeLossy (bytes : Bytes) : Text := (pieces bytes).map Piece.orReplacement

/-- Where strict decoding stops. -/
structure DecodeError where
  position : Nat
  bytes : Bytes
  defect : Defect
  deriving DecidableEq, Repr

def Piece.width : Piece → Nat
  | .character c => (encodeCodePoint c).length
  | .malformed bytes _ => bytes.length

/-- Collects the characters up to the first malformed sequence. -/
def readPieces : List Piece → Nat → Text → Except DecodeError Text
  | [], _, read => .ok read.reverse
  | .character c :: rest, position, read =>
    readPieces rest (position + (Piece.character c).width) (c :: read)
  | .malformed bytes defect :: _, position, _ => .error ⟨position, bytes, defect⟩

def decode (bytes : Bytes) : Except DecodeError Text := readPieces (pieces bytes) 0 []

def Defect.message : Defect → Text
  | .invalidStart => "invalid start byte"
  | .invalidContinuation => "invalid continuation byte"
  | .truncated => "unexpected end of data"

def DecodeError.message (error : DecodeError) : Text :=
  let place :=
    match error.bytes with
    | [byte] =>
      "byte 0x" ++ Text.hex 2 byte.toNat ++ " in position " ++
        Text.ofNat error.position
    | bytes =>
      "bytes in position " ++ Text.ofNat error.position ++ "-" ++
        Text.ofNat (error.position + bytes.length - 1)
  "'utf-8' codec can't decode " ++ place ++ ": " ++ error.defect.message

def SurrogateRun.message (run : SurrogateRun) : Text :=
  let place :=
    if run.start = run.last then
      "character '\\u" ++ Text.hex 4 run.member.val ++
        "' in position " ++ Text.ofNat run.start
    else
      "characters in position " ++ Text.ofNat run.start ++ "-" ++
        Text.ofNat run.last
  "'utf-8' codec can't encode " ++ place ++ ": surrogates not allowed"

end Utf8

end LanguageSession
