import Mathlib
import LanguageSession.Proofs.Client.Reads

/-!
# Stray output behind frames

Output of a server that is no frame is told to the listeners of the log as soon as it is found,
while messages wait for the end of the reading.  So stray output in a chunk overtakes the messages
in front of it; in a chunk of its own it comes after all that they have brought about.
-/

namespace LanguageSession

/-! ## Reading -/

namespace Frame

/-- The bytes are frames, one behind the other and all of them complete. -/
def Whole (bytes : Bytes) : Prop := (cut bytes).ending = .incomplete ∧ (cut bytes).rest = []

theorem feed_straying {buffer frames stray : Bytes} (whole : Whole (buffer ++ frames))
    (strays : front stray = .stray) :
    feed buffer (frames ++ stray) = ⟨(cut (buffer ++ frames)).payloads.filterMap Payload.message?,
      (cut (buffer ++ frames)).payloads.filterMap Payload.note?, some (Utf8.decodeLossy stray),
      [], none⟩ := by
  have found : cut (buffer ++ (frames ++ stray)) =
      ⟨(cut (buffer ++ frames)).payloads, stray, .stray⟩ := by
    rw [← List.append_assoc, cut_append stray whole.1, whole.2, List.nil_append,
      cut_of_stray strays, List.append_nil]
  simp only [feed, found]

end Frame

namespace Client

open Act

def told (text : Text) : List Entry := [.logged (Log.sessionEvent text), .emitted (.log text)]

/-- What is noted of the payloads of a stream that are no messages. -/
def droppedIn (stream : Bytes) : List Log.Record :=
  (Frame.cut stream).payloads.filterMap Frame.Payload.note?

/-- What is done with messages when a chunk has been read. -/
def handleAll (nested : Nested) (server : Nat) (messages : List Json) : Act World Unit := do
  handleMessages nested server messages
  stopIfAborted nested

section

variable {nested : Nested} {world : World}

/-! ## One chunk -/

theorem Sound.read (sound : Sound world) (server : Nat) (data buffer : Bytes)
    (notes : List Log.Record) : Sound ((world.reading server data buffer).recording notes) := by
  have arrived : Settles world (world.noting (.arrived server data)) := settles_idle trivial
  have kept : Keeps (world.noting (.arrived server data)) (world.reading server data buffer) :=
    keeps_of_core rfl
  have noted : Ensures (notes.forM record : Act World Unit) (world.reading server data buffer)
      fun _ => Settles (world.reading server data buffer) :=
    Within.forM (fun note _ => within_record note) _
  rw [ensures_records] at noted
  exact (noted (kept (arrived sound).1).1).1

/-- The listeners are told a text after it was noted, and what they do is noted behind it. -/
theorem emitLog_tells (orderly : Orderly nested) (text : Text) (sound : Sound world) :
    Ensures (emitLog nested text) world fun _ world' =>
      world.journal.entries ++ told text <+: world'.journal.entries := by
  have recorded : Settles world (world.noting (.logged (Log.sessionEvent text))) :=
    settles_idle trivial
  have emitted : Settles (world.noting (.logged (Log.sessionEvent text)))
      ((world.noting (.logged (Log.sessionEvent text))).noting (.emitted (.log text))) :=
    settles_idle trivial
  have noted := (trans_of Settles recorded emitted sound).1
  have entries : ((world.noting (.logged (Log.sessionEvent text))).noting
      (.emitted (.log text))).journal.entries = world.journal.entries ++ told text := by
    simp [told]
  simp only [emitLog, record, ensures_bind, ensures_write, add_eq_noting]
  refine (ensures_emit_since (refl_of Settles _) fun listener subscribed world' moved => ?_).mono ?_
  · exact tell_settles orderly.perform ((noted.listens subscribed).grows (moved noted).2.1) _
  · intro _ world' settles
    rw [← entries]
    exact (settles noted).2.1.journal

theorem handleFeed_strayed (orderly : Orderly nested) (server : Nat) {messages : List Json}
    {notes : List Log.Record} {text : Text} {buffer : Bytes}
    (sound : Sound (world.recording notes)) :
    ∃ heard : World,
      (world.recording notes).journal.entries ++ told text <+: heard.journal.entries ∧
        result (handleFeed nested server ⟨messages, notes, some text, buffer, none⟩) world =
          result (handleAll nested server messages) heard := by
  have recorded : after (notes.forM record : Act World Unit) world = world.recording notes :=
    (record_all notes).2
  have succeeds : Succeeds (notes.forM record : Act World Unit) :=
    Succeeds.forM fun note => record_succeeds note
  have parts : handleFeed nested server ⟨messages, notes, some text, buffer, none⟩ =
      notes.forM record >>= fun _ => emitLog nested text >>= fun _ =>
        handleAll nested server messages := rfl
  refine ⟨after (emitLog nested text) (world.recording notes), emitLog_tells orderly text sound, ?_⟩
  rw [parts, succeeds.result_bind, recorded, (emitLog_succeeds text).result_bind]

theorem receive_read {server : Nat} (data : Bytes) (current : world.session.server = some server)
    (going : world.session.stopping = false) :
    result (receive nested server data) world =
      result (handleFeed nested server (Frame.feed world.session.buffer data))
        (world.reading server data (Frame.feed world.session.buffer data).buffer) :=
  (ensures_receive current going fun ending world' => (ending, world') = _).mpr rfl

/-- What a chunk of frames and stray output behind them brings about. -/
theorem receive_straying (orderly : Orderly nested) {server : Nat} {frames stray : Bytes}
    (sound : Sound world) (current : world.session.server = some server)
    (going : world.session.stopping = false)
    (whole : Frame.Whole (world.session.buffer ++ frames)) (strays : Frame.front stray = .stray) :
    ∃ heard : World,
      world.journal.entries ++ (.arrived server (frames ++ stray) ::
          (droppedIn (world.session.buffer ++ frames)).map .logged ++
            told (Utf8.decodeLossy stray)) <+: heard.journal.entries ∧
        result (receive nested server (frames ++ stray)) world =
          result (handleAll nested server (messagesIn (world.session.buffer ++ frames))) heard := by
  obtain ⟨heard, grown, same⟩ : ∃ heard : World,
      ((world.reading server (frames ++ stray) []).recording
          (droppedIn (world.session.buffer ++ frames))).journal.entries ++
        told (Utf8.decodeLossy stray) <+: heard.journal.entries ∧ _ :=
    handleFeed_strayed orderly server (sound.read _ _ _ _)
  refine ⟨heard, ?_, ?_⟩
  · simpa [World.recording, World.reading] using grown
  · rw [receive_read _ current going, Frame.feed_straying whole strays]
    exact same

/--
In a chunk the listeners of the log are told of stray output before any of the messages in front of
it is handled.  If the frames come first and the stray output in a chunk of its own, they are told
after all that the frames have brought about.
-/
theorem stray_order {server : Nat} {frames stray : Bytes} (depth : Nat) (reached : Reached world)
    (rest : Rest world.session) (current : world.session.server = some server)
    (whole : Frame.Whole (world.session.buffer ++ frames)) (strays : Frame.front stray = .stray) :
    (∃ heard : World,
      world.journal.entries ++ (.arrived server (frames ++ stray) ::
          (droppedIn (world.session.buffer ++ frames)).map .logged ++
            told (Utf8.decodeLossy stray)) <+: heard.journal.entries ∧
        result (receive (nestedCalls depth) server (frames ++ stray)) world =
          result (handleAll (nestedCalls depth) server
            (messagesIn (world.session.buffer ++ frames))) heard) ∧
      ∀ handled, after (receive (nestedCalls depth) server frames) world = handled →
        handled.session.server = some server → handled.session.stopping = false →
        handled.session.buffer = [] →
        ∃ heard : World,
          handled.journal.entries ++ (.arrived server stray :: told (Utf8.decodeLossy stray)) <+:
              heard.journal.entries ∧
            result (receive (nestedCalls depth) server stray) handled =
              result (stopIfAborted (nestedCalls depth)) heard := by
  have orderly := nestedCalls_orderly depth
  refine ⟨receive_straying orderly reached.sound current rest.stopping whole strays, ?_⟩
  rintro handled rfl still going empty
  have sound : Sound (after (receive (nestedCalls depth) server frames) world) :=
    (receive_settles orderly server frames world reached.sound).1
  have nothing : Frame.cut [] = ⟨[], [], .incomplete⟩ := Frame.cut_of_incomplete rfl
  have bare : Frame.Whole ([] ++ []) := by
    rw [List.append_nil, Frame.Whole, nothing]
    exact ⟨rfl, rfl⟩
  -- a chunk of stray bytes alone holds no message
  have idle : handleAll (nestedCalls depth) server [] = stopIfAborted (nestedCalls depth) := rfl
  have apart := @receive_straying _ _ orderly server [] stray sound still going
    (by rw [empty]; exact bare) strays
  simpa [empty, droppedIn, messagesIn, nothing, idle] using apart

/-- Output with a header block that declares no length. -/
def chatter : Bytes := Frame.asciiBytes (Text.ofString "x\r\n\r\n")

theorem stray_order_of_answer : ∃ heard : World,
    waitingWorld.journal.entries ++ (.arrived 0 (answerFrame ++ chatter) ::
        (droppedIn (waitingWorld.session.buffer ++ answerFrame)).map .logged ++
          told (Utf8.decodeLossy chatter)) <+: heard.journal.entries ∧
      result (receive (nestedCalls 0) 0 (answerFrame ++ chatter)) waitingWorld =
        result (handleAll (nestedCalls 0) 0
          (messagesIn (waitingWorld.session.buffer ++ answerFrame))) heard :=
  (stray_order 0 waitingWorld_reached waitingWorld_rest.rest (by decide +kernel)
    ⟨by decide +kernel, by decide +kernel⟩ (by decide +kernel)).1

/-- A request waits, and someone listens to the log. -/
def listening : List Step :=
  [.start "srv" [] none, .send none (.object [("id", .nat 1), ("result", .object [])]),
    .subscribe .log ⟨"log", "L", [], none, false⟩,
    .request "x" .null (some ⟨"handler", "h", [], none, false⟩)]

/-- The names of those who were called. -/
def callers (journal : List Entry) : List Text :=
  journal.filterMap fun
    | .called _ _ name _ => some name
    | _ => none

/-- In one chunk stray output overtakes the response in front of it, in two it does not. -/
theorem chatter_overtakes :
    Frame.Whole answerFrame ∧ Frame.front chatter = .stray ∧
      callers ((play {} (listening ++ [.raw none (answerFrame ++ chatter)])).flatMap
        Turn.entries) = ["L", "h"] ∧
      callers ((play {} (listening ++ [.raw none answerFrame, .raw none chatter])).flatMap
        Turn.entries) = ["h", "L"] :=
  ⟨⟨by decide +kernel, by decide +kernel⟩, by decide +kernel, by decide +kernel, by decide +kernel⟩

end

end Client

end LanguageSession
