import Mathlib
import LanguageSession.Proofs.Frame.Header
import LanguageSession.Proofs.Json.Values
import LanguageSession.Proofs.Text.Utf8

/-!
# Frames come back as the messages they were made of

Written frames may be joined and the stream cut anywhere: the reader returns the messages
in order, reports nothing and keeps nothing.
-/

namespace LanguageSession

namespace Frame

/--
A message that writers take: an object with distinct names, in which no number is too long
and nothing nests deeper than writers and readers go.
-/
def Portable (message : Json) : Prop :=
  message.isObject = true ∧ Json.Readable Json.nestingLimit message

/-- A frame that was written, and whose length can be written in a header and read again. -/
def Written (message : Json) (frame : Bytes) : Prop :=
  encode message = .ok frame ∧ frame.length < 10 ^ Numeral.digitLimit

theorem decodePayload_of_encode {message : Json} {body : Bytes} (portable : Portable message)
    (h : Utf8.encode message.compact = .ok body) :
    decodePayload body = .ok (.message message) := by
  obtain ⟨isObject, readable⟩ := portable
  rw [decodePayload, Utf8.decode_of_encode h]
  simp only [Json.read, Json.readWithin_compact readable]
  cases message with
  | object members => rfl
  | _ => cases isObject

/-- A written frame is taken off the front of a stream. -/
theorem cut_written {message : Json} {frame : Bytes} (rest : Bytes)
    (portable : Portable message) (written : Written message frame) :
    cut (frame ++ rest) =
      { cut rest with payloads := .message message :: (cut rest).payloads } := by
  obtain ⟨encoded, short⟩ := written
  unfold encode at encoded
  split at encoded
  · cases encoded
  · split at encoded
    · cases encoded
    · next body utf8 =>
      cases encoded
      have size : body.length < 10 ^ Numeral.digitLimit := by
        simp only [wrap, List.length_append] at short
        omega
      exact cut_of_frame (front_wrap rest size) (decodePayload_of_encode portable utf8)

theorem cut_frames {messages : List Json} {frames : List Bytes}
    (portable : ∀ message ∈ messages, Portable message)
    (written : List.Forall₂ Written messages frames) :
    cut frames.flatten = ⟨messages.map .message, [], .incomplete⟩ := by
  induction written with
  | nil => exact cut_of_incomplete rfl
  | cons first later ih =>
      rw [List.flatten_cons, cut_written _ (portable _ (by simp)) first,
        ih fun message member => portable message (by simp [member])]
      rfl

theorem written_of_short {message : Json}
    (short : (encode message).toOption.any
      (fun frame => frame.length < 10 ^ Numeral.digitLimit) = true) :
    ∃ frame, Written message frame := by
  cases encoded : encode message with
  | error _ => simp [encoded, Except.toOption] at short
  | ok frame => exact ⟨frame, encoded, by simpa [encoded, Except.toOption] using short⟩

def oneAndAHalf : Double := .ofDecimal false 15 (-1)

def reads (number : Double) : Json.Reading Json → Bool
  | .ok (.float found, []) => found = number
  | _ => false

theorem reads_eq_true {number : Double} {reading : Json.Reading Json}
    (read : reads number reading = true) : reading = .ok (.float number, []) := by
  unfold reads at read
  split at read
  · rw [of_decide_eq_true read]
  · cases read

theorem oneAndAHalf_readsBack : oneAndAHalf.ReadsBack := by
  have finite : oneAndAHalf = .finite false ⟨4609434218613702656, by decide⟩ := by decide +kernel
  have read : reads oneAndAHalf (Json.readNumber (Json.writeDouble oneAndAHalf)) = true := by
    decide +kernel
  rw [finite] at read ⊢
  exact reads_eq_true read

end Frame

end LanguageSession
