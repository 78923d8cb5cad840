import Mathlib
import LanguageSession.Proofs.Client.Handlers
import LanguageSession.Proofs.Client.Responses

/-!
# Responses in a stream

An open session reads a stream of output in chunks.  Its requests are answered as the
messages of the whole stream say, wherever the chunks begin and end.  The stream must not
hold a payload with too many values inside each other: such a payload takes the messages of
its chunk with it, and all that happens is noted in `receive_stopped`.
-/

namespace LanguageSession

namespace Client

open Act

/-! ## Worlds that runs lead to -/

/-- A run of a fresh client leads to this world, with callbacks that do what they like. -/
def Reached (world : World) : Prop :=
  ∃ settings factory depth script,
    let fresh : World := { settings := settings, factory := factory }
    world = leftBy fresh (turns (performWith (nestedCalls depth)) fresh script)

theorem performWith_keeps (depth : Nat) (step : Step) :
    Within Keeps (performWith (nestedCalls depth) step) :=
  within_keeps (performWith_settles (nestedCalls_orderly depth) step)

theorem Reached.sound {world : World} (reached : Reached world) : Sound world := by
  obtain ⟨settings, factory, depth, script, rfl⟩ := reached
  exact (turns_sound (performWith_keeps depth) (sound_fresh settings factory) script).1

/-! ## Chunks of a stream -/

instance : DecidablePred Disturbs
  | .serving _ => .isTrue trivial
  | .ending _ => .isTrue trivial
  | .dropped => .isTrue trivial
  | .writeRefused _ _ => .isTrue trivial
  | .arrived _ _ => .isTrue trivial
  | .logged _ => .isFalse id
  | .emitted _ => .isFalse id
  | .called _ _ _ _ => .isFalse id
  | .doing _ => .isFalse id
  | .did _ _ => .isFalse id
  | .spawned _ _ _ => .isFalse id
  | .wrote _ _ _ => .isFalse id
  | .looked _ _ => .isFalse id
  | .waited _ _ => .isFalse id
  | .killed _ => .isFalse id
  | .closed _ => .isFalse id
  | .shown _ => .isFalse id
  | .handling _ _ => .isFalse id
  | .awaiting _ _ _ => .isFalse id
  | .requested _ _ => .isFalse id

instance (added : List Entry) : Decidable (Calm added) :=
  inferInstanceAs (Decidable (∀ entry ∈ added, ¬ Disturbs entry))

/-- The messages in a stream, without the payloads that are dropped. -/
def messagesIn (stream : Bytes) : List Json :=
  (Frame.cut stream).payloads.filterMap Frame.Payload.message?

def chunksFrom (server : Nat) (chunks : List Bytes) : List Step :=
  chunks.map fun chunk => .raw (some server) chunk

section

variable {nested : Nested} {server : Nat} {world : World}

theorem ensures_raw {data : Bytes} (made : server < world.servers.length)
    (post : Except Fault Json → World → Prop) :
    Ensures (performWith nested (.raw (some server) data)) world post ↔
      Ensures (receive nested server data) world fun ending world' =>
        post (ending.map fun _ => .null) world' := by
  simp only [performWith, withServer, chosenServer, ensures_bind, ensures_get, ensures_pure,
    Option.getD_some, made, if_true]
  unfold Ensures
  cases (result (receive nested server data) world).1 <;> rfl

variable {buffer : Bytes} {asked : List (Json × Nat)} (orderly : Orderly nested)

theorem Reading.made (reading : Reading server buffer asked world) :
    server < world.servers.length := by
  apply reading.sound.servers
  apply serving_of_standing
  rw [reading.sound.server, reading.server]

include orderly

/-- In a turn after whose arrival nothing disturbs, the messages of the chunk are handled. -/
theorem turn_reads (chunk : Bytes) (reading : Reading server buffer asked world)
    (hashable : ∀ message ∈ (Frame.feed buffer chunk).messages, Hashable message)
    (calm : Calm (turn (performWith nested) world (.raw (some server) chunk)).entries.tail) :
    (turn (performWith nested) world (.raw (some server) chunk)).outcome =
        (feedOutcome (Frame.feed buffer chunk)).map (fun _ => .null) ∧
      Took server (Frame.feed buffer chunk).buffer asked (Frame.feed buffer chunk).messages world
        (turn (performWith nested) world (.raw (some server) chunk)).after := by
  have grown := (turn_keeps (within_keeps
    (performWith_settles orderly (.raw (some server) chunk))) reading.sound).2
  have read : Ensures (performWith nested (.raw (some server) chunk)) world fun ending world' =>
      Disturbed (world.noting (.arrived server chunk)) world' ∨
        ending = (feedOutcome (Frame.feed buffer chunk)).map (fun _ => .null) ∧
          Took server (Frame.feed buffer chunk).buffer asked (Frame.feed buffer chunk).messages
            world world' := by
    rw [ensures_raw reading.made]
    refine (receive_reads orderly hashable reading).mono ?_
    rintro ending world' (disturbed | ⟨rfl, took⟩)
    · exact .inl disturbed
    · exact .inr ⟨rfl, took⟩
  rcases read with ⟨between, ⟨later, same⟩, entry, member, disturbs⟩ | read
  · have entries : (turn (performWith nested) world (.raw (some server) chunk)).entries =
        .arrived server chunk :: (between ++ later) := by
      refine List.append_cancel_left (?_ : world.journal.entries ++ _ = _ ++ _)
      rw [← grown, turn_after, after, ← same]
      simp
    rw [entries] at calm
    exact (calm entry (List.mem_append_left later member) disturbs).elim
  · exact read

theorem chunks_read {chunks : List Bytes} (reading : Reading server buffer asked world)
    (start : Frame.front buffer = .incomplete)
    (whole : (Frame.cut (buffer ++ chunks.flatten)).ending = .incomplete)
    (hashable : ∀ message ∈ messagesIn (buffer ++ chunks.flatten), Hashable message)
    (calm : ∀ turn ∈ turns (performWith nested) world (chunksFrom server chunks),
      Calm turn.entries.tail) :
    (∀ turn ∈ turns (performWith nested) world (chunksFrom server chunks),
        turn.outcome = .ok .null) ∧
      Took server (Frame.cut (buffer ++ chunks.flatten)).rest asked
        (messagesIn (buffer ++ chunks.flatten)) world
        (leftBy world (turns (performWith nested) world (chunksFrom server chunks))) := by
  -- on the chunks: what is kept after one of them is the start of a frame, with which
  -- the next one is read
  induction chunks generalizing buffer asked world with
  | nil =>
      simp only [List.flatten_nil, List.append_nil, messagesIn, Frame.cut_of_incomplete start]
      exact ⟨by simp [chunksFrom, turns], reading.refl⟩
  | cons chunk chunks ih =>
      rw [List.flatten_cons, ← List.append_assoc] at whole hashable ⊢
      have first := Frame.cut_beginning whole
      have fed := Frame.feed_of_incomplete first
      have later := Frame.cut_append chunks.flatten first
      have messages : messagesIn (buffer ++ chunk ++ chunks.flatten) =
          messagesIn (buffer ++ chunk) ++
            messagesIn ((Frame.cut (buffer ++ chunk)).rest ++ chunks.flatten) := by
        rw [messagesIn, later, List.filterMap_append]
        rfl
      rw [messages] at hashable ⊢
      rw [later] at whole ⊢
      simp only [chunksFrom, List.map_cons, turns, List.forall_mem_cons, leftBy_cons] at calm ⊢
      obtain ⟨outcome, took⟩ := turn_reads orderly chunk reading
        (by
          rw [fed]
          exact fun message member => hashable message (List.mem_append_left _ member))
        calm.1
      rw [fed] at outcome took
      obtain ⟨outcomes, took'⟩ := ih took.reading (Frame.front_of_cut_incomplete first)
        whole
        (fun message member => hashable message (List.mem_append_right _ member)) calm.2
      exact ⟨⟨outcome, outcomes⟩, took.append reading.distinct took'⟩

end

/-! ## Reading that is stopped -/

section

variable {nested : Nested} {world : World}

theorem record_all (notes : List Log.Record) :
    Ensures (notes.forM record : Act World Unit) world fun ending world' => ending = .ok () ∧
      world' = { world with journal := ⟨world.journal.entries ++ notes.map .logged⟩ } := by
  induction notes generalizing world with
  | nil => simp
  | cons note notes ih =>
      rw [List.forM, ensures_bind]
      simp only [record, ensures_write, add_eq_noting]
      refine ih.mono ?_
      rintro _ world' ⟨rfl, rfl⟩
      simp [World.noting]

theorem receive_stopped {server : Nat} {data : Bytes} {fault : Fault}
    (current : world.session.server = some server) (idle : world.session.stopping = false)
    (stopped : (Frame.feed world.session.buffer data).fault = some fault) :
    Ensures (receive nested server data) world fun ending world' => ending = .error fault ∧
      world' = { world with
        session := { world.session with buffer := (Frame.feed world.session.buffer data).buffer }
        journal := ⟨world.journal.entries ++ .arrived server data ::
          (Frame.feed world.session.buffer data).notes.map .logged⟩ } := by
  unfold receive
  rw [ensures_bind, ensures_write, add_eq_noting]
  simp only [ensures_bind, ensures_getSession, noting_session, current, idle, decide_true,
    Bool.not_false, Bool.and_self, if_true, ensures_modifySession, handleFeed, stopped]
  refine (record_all _).mono ?_
  rintro _ world' ⟨rfl, rfl⟩
  simp [World.noting]

end

/-! ## What requests get -/

/-- The requests that wait are served as the messages say. -/
structure Served (asked : List (Json × Nat)) (messages : List Json) (entries : List Entry)
    (world : World) : Prop where
  /-- The handler of a request gets the first response to it, and is not called otherwise. -/
  each : ∀ request ∈ asked, callsOf [request] entries =
    ((messages.find? fun message => responds message request.1).map (call request.2)).toList
  inOrder : callsOf asked entries = served asked messages
  waiting : unanswered asked messages <+: requests world
  finished : ∀ request ∈ asked, request ∈ requests world → request ∈ unanswered asked messages
  exactly : (∀ callback id number, .awaiting callback id number ∉ entries) →
    requests world = unanswered asked messages

theorem waiting_sublist {journal later : List Entry}
    (nobody : ∀ callback id server, .awaiting callback id server ∉ later) :
    (standing (journal ++ later)).waiting.Sublist (standing journal).waiting := by
  induction later using List.reverseRecOn with
  | nil => simp
  | append_singleton later entry ih =>
      rw [← List.append_assoc, standing_snoc]
      have earlier := ih fun callback id server member =>
        nobody callback id server (List.mem_append_left _ member)
      cases entry with
      | awaiting callback id server => exact (nobody callback id server (by simp)).elim
      | called callback kind name arguments => exact List.filter_sublist.trans earlier
      | dropped => exact List.nil_sublist _
      | _ => exact earlier

theorem Sound.requests_eq {world : World} (sound : Sound world) :
    requests world = (standing world.journal.entries).waiting.map fun request =>
      (Json.nat request.id, request.callback) := sound.waiting

theorem Took.served_all {server : Nat} {buffer : Bytes} {messages : List Json}
    {world world' : World} {entries : List Entry} (distinct : Distinct (requests world))
    (sound : Sound world) (took : Took server buffer (requests world) messages world world')
    (grown : world'.journal.entries = world.journal.entries ++ entries) :
    Served (requests world) messages entries world' := by
  obtain ⟨reading, added, same, calls⟩ := took
  rw [grown, List.append_cancel_left_eq] at same
  subst same
  -- each request is called for by the first response to it
  have each : ∀ request ∈ requests world, callsOf [request] entries =
      ((messages.find? fun message => responds message request.1).map (call request.2)).toList := by
    intro request member
    rw [callsOf_singleton member, calls, served_to distinct member]
  have finished : ∀ request ∈ requests world, request ∈ requests world' →
      request ∈ unanswered (requests world) messages := by
    intro request member waits
    rw [mem_unanswered]
    refine ⟨member, ?_⟩
    have silent : callsOf [request] entries = [] := by
      apply callsOf_eq_nil
      simp only [List.mem_singleton, forall_eq]
      intro name arguments called
      apply reading.sound.not_called waits "handler" name arguments
      rw [grown]
      exact List.mem_append_right _ called
    rw [each request member, Option.toList_eq_nil_iff, Option.map_eq_none_iff,
      List.find?_eq_none] at silent
    simpa using silent
  refine ⟨each, calls, reading.asked, finished, ?_⟩
  intro nobody
  obtain ⟨newer, split⟩ := reading.asked
  -- A request that is newly there would have been there before, and then it is unanswered.
  have sublist : (requests world').Sublist (requests world) := by
    rw [reading.sound.requests_eq, sound.requests_eq, grown]
    exact (waiting_sublist nobody).map _
  have apart := reading.sound.distinct.callbacks.of_map
  rw [← split, List.nodup_append] at apart
  have none_newer : newer = [] := by
    rw [List.eq_nil_iff_forall_not_mem]
    intro request member
    have waits : request ∈ requests world' := split ▸ List.mem_append_right _ member
    exact apart.2.2 request (finished request (sublist.subset waits) waits) request member rfl
  rw [← split, none_newer, List.append_nil]

/--
The requests of an open session are served by the stream that follows, in any chunks, as long
as the session is not ended and no write fails: whatever else the stream holds, and whatever
handlers and listeners do.
-/
theorem responses_of_stream {world : World} {server : Nat} {chunks : List Bytes} (depth : Nat)
    (reached : Reached world) (rest : Rest world.session) (ready : world.session.ready = true)
    (current : world.session.server = some server) (empty : world.session.buffer = [])
    (whole : (Frame.cut chunks.flatten).ending = .incomplete)
    (hashable : ∀ message ∈ messagesIn chunks.flatten, Hashable message)
    (calm : ∀ turn ∈ turns (performWith (nestedCalls depth)) world (chunksFrom server chunks),
      Calm turn.entries.tail) :
    (∀ turn ∈ turns (performWith (nestedCalls depth)) world (chunksFrom server chunks),
        turn.outcome = .ok .null) ∧
      Served (requests world) (messagesIn chunks.flatten)
        ((turns (performWith (nestedCalls depth)) world (chunksFrom server chunks)).flatMap
          Turn.entries)
        (leftBy world
          (turns (performWith (nestedCalls depth)) world (chunksFrom server chunks))) := by
  have established : Established world := by
    rintro member
    obtain ⟨entry, waits, handshake⟩ := List.mem_map.mp member
    exact ((rest.opened ready).pending entry waits).1 handshake
  have reading : Reading server [] (requests world) world :=
    ⟨reached.sound, established, current, empty, rest.stopping, rest.abortRequested,
      List.prefix_rfl⟩
  obtain ⟨outcomes, took⟩ := chunks_read (nestedCalls_orderly depth) reading rfl whole hashable calm
  obtain ⟨-, grown⟩ := turns_sound (performWith_keeps depth) reached.sound (chunksFrom server chunks)
  exact ⟨outcomes, took.served_all reading.distinct reached.sound grown⟩

/-! ## A request and its response -/

instance (outcome : Except Fault Unit) : Decidable (outcome = .ok ()) :=
  match outcome with
  | .ok () => .isTrue rfl
  | .error _ => .isFalse nofun

instance (message : Json) : Decidable (Hashable message) :=
  inferInstanceAs (Decidable (_ → _))

def asking : List Step :=
  [.start "srv" [] none, .send none (.object [("id", .nat 1), ("result", .object [])]),
    .request "x" .null (some ⟨"handler", "h", [], none, true⟩)]

def answer : Json := .object [("id", .nat 2), ("result", .nat 7)]

def answerFrame : Bytes := (Frame.encode answer).toOption.getD []

def waitingWorld : World := leftBy {} (turns (performWith (nestedCalls 0)) {} asking)

theorem waitingWorld_reached : Reached waitingWorld := ⟨{}, {}, 0, asking, rfl⟩

theorem waitingWorld_rest : AtRest waitingWorld := by
  refine leftBy_turns (fun step member world rest => ?_) (atRest_fresh {} fun _ => rfl)
  refine performWith_passive ?_ rest
  revert step
  simp [asking, Step.Passive]

/-- The response is cut in two, and nothing else disturbs. -/
theorem responses_of_two_chunks :
    Served (requests waitingWorld) (messagesIn [answerFrame.take 9, answerFrame.drop 9].flatten)
      ((turns (performWith (nestedCalls 0)) waitingWorld
        (chunksFrom 0 [answerFrame.take 9, answerFrame.drop 9])).flatMap Turn.entries)
      (leftBy waitingWorld (turns (performWith (nestedCalls 0)) waitingWorld
        (chunksFrom 0 [answerFrame.take 9, answerFrame.drop 9]))) :=
  (responses_of_stream 0 waitingWorld_reached waitingWorld_rest.rest (by decide +kernel)
    (by decide +kernel) (by decide +kernel) (by decide +kernel) (by decide +kernel)
    (by decide +kernel)).2

end Client

end LanguageSession
