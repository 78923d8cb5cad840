import LanguageSession.Frame.Encode
import LanguageSession.Frame.Header
import LanguageSession.Json.Reader
import LanguageSession.Log.Record

/-!
Reading frames.  A buffer is cut into frames from its start until what is left holds
no complete frame.  What is left is kept for later, unless it holds a header block
that declares no length: then all of it is stray output of the server.

Payloads that are not messages are dropped.  Only a payload with too many values inside
each other stops the reading: the messages before it in the buffer are lost with it,
and what comes after it is kept.
-/

namespace LanguageSession

namespace Frame

/-- What stands at the start of a buffer. -/
inductive Front where
  /-- A header block or a body goes on beyond the buffer. -/
  | incomplete
  /-- A header block without a length. -/
  | stray
  | frame (payload rest : Bytes)
  deriving DecidableEq, Repr

/-- Does an empty line start here? -/
def atSeparator : Bytes → Bool
  | first :: second :: third :: fourth :: _ =>
    first == 0x0D && second == 0x0A && third == 0x0D && fourth == 0x0A
  | _ => false

/-- Where the first empty line starts, counted on from `position`. -/
def findSeparator : Bytes → Nat → Option Nat
  | [], _ => none
  | byte :: rest, position =>
    if atSeparator (byte :: rest) then some position else findSeparator rest (position + 1)

/-- Are there so many bytes? -/
def hasBytes : Nat → Bytes → Bool
  | 0, _ => true
  | _ + 1, [] => false
  | n + 1, _ :: rest => hasBytes n rest

theorem hasBytes_iff {n : Nat} {bytes : Bytes} : hasBytes n bytes = true ↔ n ≤ bytes.length := by
  induction bytes generalizing n with
  | nil => cases n <;> simp [hasBytes]
  | cons byte rest ih => cases n <;> simp [hasBytes, ih]

def front (buffer : Bytes) : Front :=
  match findSeparator buffer 0 with
  | none => .incomplete
  | some position =>
    match contentLength (buffer.take position) with
    | none => .stray
    | some length =>
      let body := buffer.drop (position + separator.length)
      if hasBytes length body then .frame (body.take length) (body.drop length) else .incomplete

theorem findSeparator_lt {buffer : Bytes} {start position : Nat}
    (found : findSeparator buffer start = some position) :
    start ≤ position ∧ position < start + buffer.length := by
  induction buffer generalizing start with
  | nil => simp [findSeparator] at found
  | cons byte rest ih =>
      simp only [findSeparator] at found
      split at found
      · have : start = position := by simpa using found
        simp only [List.length_cons]
        omega
      · have := ih found
        simp only [List.length_cons]
        omega

theorem front_rest_shorter {buffer payload rest : Bytes}
    (h : front buffer = .frame payload rest) : rest.length < buffer.length := by
  unfold front at h
  split at h
  · cases h
  · next position found =>
    split at h
    · cases h
    · dsimp only at h
      split at h
      · cases h
        have := findSeparator_lt found
        have : separator.length = 4 := rfl
        simp only [List.length_drop]
        omega
      · cases h

inductive Payload where
  | message (value : Json)
  | malformed (size : Nat) (reason : Text)
  /-- A JSON value that is not an object. -/
  | other (value : Json)
  deriving Repr

/-- Reads a payload, unless it has too many values inside each other. -/
def decodePayload (payload : Bytes) : Except Json.Container Payload :=
  match Utf8.decode payload with
  | .error error => .ok (.malformed payload.length error.message)
  | .ok text =>
    match Json.read text with
    | .error ⟨.tooDeep container, _⟩ => .error container
    | .error error => .ok (.malformed payload.length (error.message text))
    | .ok (.object members) => .ok (.message (.object members))
    | .ok value => .ok (.other value)

def Payload.message? : Payload → Option Json
  | .message value => some value
  | _ => none

/-- Payloads that are not messages are dropped with a note. -/
def Payload.note? : Payload → Option Log.Record
  | .message _ => none
  | .malformed size reason => some (Log.malformedPayload size reason)
  | .other value => some (Log.notAnObject value)

/-- Why a buffer is cut no further. -/
inductive CutEnd where
  /-- The rest holds no complete frame. -/
  | incomplete
  /-- The rest holds a header block without a length. -/
  | stray
  /-- The frame before the rest has too many values inside each other. -/
  | tooDeep (container : Json.Container)
  deriving DecidableEq, Repr

/-- The payloads of the frames in a buffer, and what is left after them. -/
structure Cut where
  payloads : List Payload
  rest : Bytes
  ending : CutEnd
  deriving Repr

def cut (buffer : Bytes) : Cut :=
  match h : front buffer with
  | .incomplete => ⟨[], buffer, .incomplete⟩
  | .stray => ⟨[], buffer, .stray⟩
  | .frame payload rest =>
    match decodePayload payload with
    | .error container => ⟨[], rest, .tooDeep container⟩
    | .ok payload =>
      have := front_rest_shorter h
      let later := cut rest
      { later with payloads := payload :: later.payloads }
termination_by buffer.length

/-- What feeding bytes to a reader brings about. -/
structure Feed where
  messages : List Json
  notes : List Log.Record
  /-- Output of the server that is not a message. -/
  stray : Option Text
  /-- Bytes kept for later. -/
  buffer : Bytes
  /-- Why the reading was stopped, if it was. -/
  fault : Option Fault
  deriving Repr

def feed (buffer data : Bytes) : Feed :=
  let found := cut (buffer ++ data)
  let messages := found.payloads.filterMap Payload.message?
  let notes := found.payloads.filterMap Payload.note?
  match found.ending with
  | .incomplete => ⟨messages, notes, none, found.rest, none⟩
  | .stray => ⟨messages, notes, some (Utf8.decodeLossy found.rest), [], none⟩
  | .tooDeep container => ⟨[], notes, none, found.rest, some (.tooDeep container)⟩

/--
Feeds chunks one after the other, each to the bytes that the one before it left, as far
as the first one at which the reading is stopped.
-/
def feedAll (buffer : Bytes) : List Bytes → List Feed
  | [] => []
  | chunk :: chunks =>
    let fed := feed buffer chunk
    if fed.fault.isSome then [fed] else fed :: feedAll fed.buffer chunks

end Frame

end LanguageSession
