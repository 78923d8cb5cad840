import LanguageSession.Fault
import LanguageSession.Json.Writer

/-!
Writing frames.  A frame is a header that gives the length of the body in bytes, an
empty line, and the body, which is the compact JSON text of the message in UTF-8.
-/

namespace LanguageSession

namespace Frame

def asciiBytes (text : Text) : Bytes := text.map fun c => UInt8.ofNat c.val

/-- The empty line that ends a header block, with the end of the line before it. -/
def separator : Bytes := [0x0D, 0x0A, 0x0D, 0x0A]

def header (length : Nat) : Bytes :=
  asciiBytes ("Content-Length: " ++ Text.ofNat length) ++ separator

def wrap (body : Bytes) : Bytes := header body.length ++ body

/-- Values without a JSON form are looked for first, surrogates in the written text second. -/
def encode (message : Json) : Except EncodeError Bytes :=
  match message.firstForeign? with
  | some kind => .error (.unserializable kind)
  | none =>
    match Utf8.encode message.compact with
    | .error run => .error (.surrogates run)
    | .ok body => .ok (wrap body)

end Frame

end LanguageSession
