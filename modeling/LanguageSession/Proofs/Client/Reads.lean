import Mathlib
import LanguageSession.Proofs.Client.Calls
import LanguageSession.Proofs.Client.Streams

/-!
# How output is cut into reads

What a passive session makes of the output of its server does not depend on the chunks in
which it is read.  Within a chunk the messages after one that ends the session are skipped;
in a later chunk they are dropped because the server is no longer current, and nothing is
kept of what was read before.
-/

namespace LanguageSession

namespace Client

open Act

/-! ## Passive worlds -/

section

variable {nested : Nested} {world world' : World}

theorem blind_invoke (perform : Step → Act World Json) (who : Nat) (arguments : List Json) :
    Blind True (invoke Step.operation perform who arguments) := by
  intro world world' alike
  have passive := alike.passive trivial
  obtain ⟨journal, buffer, same⟩ := alike.parts
  cases known : world.cast.callbacks[who]? with
  | none =>
      have unknown : world'.cast.callbacks[who]? = none := by rw [same]; exact known
      simp only [Matches, invoke, ensures_bind, ensures_getCast, known, unknown]
      exact ⟨rfl, alike⟩
  | some callback =>
      have known' : world'.cast.callbacks[who]? = some callback := by rw [same]; exact known
      have passive' : Passive world' := by
        rw [same]
        exact passive.kept
      refine (invoke_idle arguments known (passive.callbacks who callback known)).mono ?_
      rintro _ called ⟨rfl, rfl⟩
      refine (invoke_idle arguments known' (passive'.callbacks who callback known')).mono ?_
      rintro _ called ⟨rfl, rfl⟩
      refine ⟨rfl, (alike.noting _).changing _ (fun _ _ _ => rfl) fun _ world passive => ?_⟩
      refine ⟨fun other callback known => ?_, passive.servers, passive.factory⟩
      exact (passive.callbacks other callback known).imp_right (spent_spending _ _ _ _ ·)

/-- In passive worlds nothing depends on the nested calls. -/
theorem unaware_passive : Unaware True nested where
  invokes := blind_invoke _
  delivers server message data := by
    refine blind_get_passive (fun _ _ _ => rfl) fun world passive => ?_
    split
    · exact agrees_pure _
    · next process known =>
      have silent := (passive trivial).servers process (List.mem_of_getElem? known)
      refine Agrees.bind (blind_modifyServer server fun _ => rfl) fun _ => ?_
      split
      · exact Agrees.bind (blind_write _) fun _ => agrees_pure _
      · refine Agrees.bind (blind_write _) fun _ => ?_
        refine Agrees.bind (blind_modifyServer server fun process => (accept_weakens _ process).1)
          fun _ => ?_
        rw [silent]
        exact Agrees.bind (agrees_pure _) fun _ => agrees_pure _

/-! ## What is of no account -/

theorem Alike.strictly (alike : Alike True world world')
    (buffer : world'.session.buffer = world.session.buffer) : Alike False world world' :=
  ⟨alike.parts, alike.seen, .inr buffer, False.elim⟩

theorem Alike.symm (alike : Alike False world world') : Alike False world' world where
  parts := by
    obtain ⟨journal, buffer, rfl⟩ := alike.parts
    exact ⟨world.journal, world.session.buffer, rfl⟩
  seen := alike.seen.symm
  buffer := .inr (alike.buffer.resolve_left id).symm
  passive := False.elim

theorem Alike.trans {world'' : World} (first : Alike False world world')
    (second : Alike False world' world'') : Alike False world world'' where
  parts := by
    obtain ⟨journal, buffer, rfl⟩ := first.parts
    obtain ⟨journal', buffer', rfl⟩ := second.parts
    exact ⟨journal', buffer', rfl⟩
  seen := second.seen.trans first.seen
  buffer := .inr ((second.buffer.resolve_left id).trans (first.buffer.resolve_left id))
  passive := False.elim

theorem Alike.rereading (alike : Alike True world world') (buffer : Bytes) :
    Alike True world { world' with session := { world'.session with buffer := buffer } } where
  parts := by
    obtain ⟨journal, _, rfl⟩ := alike.parts
    exact ⟨journal, buffer, rfl⟩
  seen := alike.seen
  buffer := .inl trivial
  passive := alike.passive

theorem Alike.ended (alike : Alike True world world') (ended : Ended world)
    (ended' : Ended world') : Alike False world world' := by
  apply alike.strictly
  rw [(ended.rest.vacant ended.server).buffer, (ended'.rest.vacant ended'.server).buffer]

theorem handleMessages_aborted {server : Nat} (messages : List Json)
    (aborted : world.session.abortRequested = true) (post : Except Fault Unit → World → Prop) :
    Ensures (handleMessages nested server messages) world post ↔ post (.ok ()) world := by
  cases messages with
  | nil => exact Iff.rfl
  | cons message messages =>
      rw [handleMessages, ensures_bind]
      simp only [ensures_getSession, aborted]
      exact Iff.rfl

theorem ensures_of_result {α : Type} {action : Act World α} {ending : Except Fault α}
    (ran : result action world = (ending, world')) (post : Except Fault α → World → Prop) :
    Ensures action world post ↔ post ending world' := by
  rw [Ensures, ran]

def World.recording (world : World) (notes : List Log.Record) : World :=
  { world with journal := ⟨world.journal.entries ++ notes.map .logged⟩ }

theorem AtRest.recording (rest : AtRest world) (notes : List Log.Record) :
    AtRest (world.recording notes) :=
  ⟨rest.passive.kept, rest.rest⟩

theorem ensures_records (notes : List Log.Record) (post : Except Fault Unit → World → Prop) :
    Ensures (notes.forM record : Act World Unit) world post ↔
      post (.ok ()) (world.recording notes) := by
  obtain ⟨ends, same⟩ : Ensures (notes.forM record : Act World Unit) world _ := record_all notes
  rw [Ensures, ends, same]
  rfl

theorem seen_recording (world : World) (notes : List Log.Record) :
    (world.recording notes).seen = world.seen := by
  simp [World.recording, World.seen, List.filter_map, Function.comp_def, Seen]

theorem Alike.recording_left (alike : Alike True world world') (notes : List Log.Record) :
    Alike True (world.recording notes) world' where
  parts := by
    obtain ⟨journal, buffer, rfl⟩ := alike.parts
    exact ⟨journal, buffer, rfl⟩
  seen := by rw [seen_recording, alike.seen]
  buffer := alike.buffer
  passive chosen := ⟨(alike.passive chosen).callbacks, (alike.passive chosen).servers,
    (alike.passive chosen).factory⟩

theorem Alike.recording_right (alike : Alike True world world') (notes : List Log.Record) :
    Alike True world (world'.recording notes) where
  parts := by
    obtain ⟨journal, buffer, rfl⟩ := alike.parts
    exact ⟨_, buffer, rfl⟩
  seen := by rw [seen_recording, alike.seen]
  buffer := alike.buffer
  passive := alike.passive

/-! ## Reading in two portions -/

theorem feed_in_two {buffer first second : Bytes}
    (whole : (Frame.cut (buffer ++ first ++ second)).ending = .incomplete) :
    ∃ notes later notes',
      Frame.feed buffer (first ++ second) = ⟨messagesIn (buffer ++ first) ++ later,
        notes ++ notes', none, (Frame.cut (buffer ++ first ++ second)).rest, none⟩ ∧
      Frame.feed buffer first =
        ⟨messagesIn (buffer ++ first), notes, none, (Frame.cut (buffer ++ first)).rest, none⟩ ∧
      Frame.feed (Frame.cut (buffer ++ first)).rest second =
        ⟨later, notes', none, (Frame.cut (buffer ++ first ++ second)).rest, none⟩ := by
  have begins := Frame.cut_beginning whole
  have cut := Frame.cut_append second begins
  have ends := whole
  rw [cut] at ends
  refine ⟨(Frame.cut (buffer ++ first)).payloads.filterMap Frame.Payload.note?,
    messagesIn ((Frame.cut (buffer ++ first)).rest ++ second),
    (Frame.cut ((Frame.cut (buffer ++ first)).rest ++ second)).payloads.filterMap
      Frame.Payload.note?, ?_, ?_, ?_⟩
  · rw [List.append_assoc] at whole
    rw [Frame.feed_of_incomplete whole, ← List.append_assoc, cut]
    simp [messagesIn]
  · exact Frame.feed_of_incomplete begins
  · rw [Frame.feed_of_incomplete ends, cut]
    rfl

theorem handled_in_two {server : Nat} {messages : List Json}
    (alike : Alike True world world') (rest : AtRest world) (rest' : AtRest world')
    (hashable : ∀ message ∈ messages, Hashable message) :
    ∃ handled handled',
      result (handleMessages nested server messages) world = (.ok (), handled) ∧
      result (handleMessages nested server messages) world' = (.ok (), handled') ∧
      Alike True handled handled' ∧
      Handled world.session False (.ok () : Except Fault Unit) handled ∧
      Handled world'.session False (.ok () : Except Fault Unit) handled' := by
  obtain ⟨same, alike⟩ := (handleMessages_blind unaware_passive server messages _ _ alike :
    Matches (Alike True) (handleMessages nested server messages) _ _ _)
  have first : Ensures (handleMessages nested server messages) world (Handled world.session _) :=
    handleMessages_passive server messages rest.passive (.inl rest.rest)
  have second : Ensures (handleMessages nested server messages) world' (Handled world'.session _) :=
    handleMessages_passive server messages rest'.passive (.inl rest'.rest)
  unfold Ensures at first second
  rcases ran : result (handleMessages nested server messages) world with ⟨ending, handled⟩
  rcases ran' : result (handleMessages nested server messages) world' with ⟨ending', handled'⟩
  rw [ran] at first same alike
  rw [ran'] at second same alike
  obtain rfl : ending' = ending := same
  cases ending' with
  | error fault =>
      obtain ⟨-, message, member, refused⟩ := first.settled
      exact (refused (hashable message member)).elim
  | ok value =>
      refine ⟨handled, handled', rfl, rfl, alike, ?_, ?_⟩
      · exact ⟨first.passive, first.settled, first.server, first.buffer⟩
      · exact ⟨second.passive, second.settled, second.server, second.buffer⟩

/-- The session that is to be ended ends in both worlds, and what comes later is dropped. -/
theorem ended_in_two {server : Nat} {second : Bytes} (alike : Alike True world world')
    (passive' : Passive world') (failing : Failing world'.session) :
    Ensures (stopIfAborted nested) world fun _ together =>
      Ensures (stopIfAborted nested) world' fun _ begun =>
        Ensures (receive nested server second) begun fun _ apart => Alike False together apart := by
  have failing' : Failing world.session := by
    obtain ⟨journal, buffer, rfl⟩ := alike.parts
    exact ⟨failing.server, failing.stopping, failing.abortRequested⟩
  have both : Ensures (stopIfAborted nested) world fun ending together => Ended together ∧
      Ensures (stopIfAborted nested) world' fun ending' begun =>
        (ending' = ending ∧ Alike True together begun) ∧ Ended begun :=
    ⟨(failing'.ended (alike.passive trivial)).1, stopIfAborted_blind unaware_passive _ _ alike,
      (failing.ended passive').1⟩
  refine both.mono ?_
  rintro _ together ⟨ended, both⟩
  refine both.mono ?_
  rintro _ begun ⟨⟨-, alike⟩, ended'⟩
  rw [ensures_receive_dropped (by simp [ended'.server])]
  exact (alike.ended ended ended').noting_right rfl

/--
The messages are handled together or apart: in worlds that differ in what was read, and then
in the second world with what comes later.
-/
theorem handleFeed_in_two (sightless : Sightless nested) {server : Nat}
    {messages later : List Json} {notes notes' : List Log.Record} {kept middle more : Bytes}
    (alike : Alike True world world') (rest : AtRest world) (rest' : AtRest world')
    (current : world'.session.server = some server) (read : world.session.buffer = kept)
    (hashable : ∀ message ∈ messages, Hashable message)
    (fed : Frame.feed world'.session.buffer more = ⟨later, notes', none, kept, none⟩) :
    Ensures (handleFeed nested server ⟨messages ++ later, notes ++ notes', none, kept, none⟩) world
      fun _ together =>
        Ensures (handleFeed nested server ⟨messages, notes, none, middle, none⟩) world'
          fun _ begun =>
            Ensures (receive nested server more) begun fun _ apart =>
              Alike False together apart := by
  obtain ⟨handled, handled', ran, ran', alike, first, second⟩ :
      ∃ handled handled', result (handleMessages nested server messages) _ = (_, handled) ∧ _ :=
    handled_in_two ((alike.recording_left (notes ++ notes')).recording_right notes)
      (rest.recording _) (rest'.recording _) hashable
  simp only [handleFeed_messages, handleMessages_append, ensures_bind, ensures_records,
    ensures_of_result ran, ensures_of_result ran']
  rcases second.settled with rest | failing
  · have fed : Frame.feed handled'.session.buffer more = ⟨later, notes', none, kept, none⟩ :=
      second.buffer ▸ fed
    simp only [rest.unstopped, ensures_receive (second.server.trans current) rest.stopping, fed,
      handleFeed_messages, ensures_bind, ensures_records]
    -- The second world catches up with the first.
    let arrived : World := { handled'.noting (.arrived server more) with
      session := { handled'.session with buffer := kept } }
    have caught : Alike False handled (arrived.recording notes') := by
      have alike : Alike True handled (handled'.noting (.arrived server more)) :=
        alike.noting_right rfl
      exact ((alike.rereading kept).recording_right notes').strictly (first.buffer.trans read).symm
    have goes_on : Matches (Alike False)
        (handleMessages nested server later >>= fun _ => stopIfAborted nested)
        (handleMessages nested server later >>= fun _ => stopIfAborted nested) handled
        (arrived.recording notes') :=
      (handleMessages_blind sightless.unaware server later _ _ caught).bind
        fun _ _ _ alike _ => stopIfAborted_blind sightless.unaware _ _ alike
    have related := goes_on.mono fun _ _ later => later.mono fun _ _ => And.right
    simpa only [ensures_bind] using related
  · have aborted : handled.session.abortRequested = true := by
      obtain ⟨journal, buffer, rfl⟩ := alike.parts
      exact failing.abortRequested
    rw [handleMessages_aborted later aborted]
    exact ended_in_two alike second.passive failing

/-- The stream is read without stray output or anything too deep, and its ids can be looked up. -/
structure Readable (world : World) (stream : Bytes) : Prop where
  whole : (Frame.cut (world.session.buffer ++ stream)).ending = .incomplete
  hashable : ∀ message ∈ messagesIn (world.session.buffer ++ stream), Hashable message

theorem Readable.hashable_first {first second : Bytes}
    (readable : Readable world (first ++ second)) :
    ∀ message ∈ messagesIn (world.session.buffer ++ first), Hashable message := by
  have whole := readable.whole
  rw [← List.append_assoc] at whole
  intro message member
  apply readable.hashable
  rw [messagesIn, ← List.append_assoc, Frame.cut_append second (Frame.cut_beginning whole)]
  simp only [List.filterMap_append]
  exact List.mem_append_left _ member

def World.reading (world : World) (server : Nat) (data buffer : Bytes) : World :=
  { world.noting (.arrived server data) with session := { world.session with buffer := buffer } }

theorem AtRest.reading {server : Nat} (rest : AtRest world)
    (current : world.session.server = some server) (data buffer : Bytes) :
    AtRest (world.reading server data buffer) := by
  refine ⟨?_, ?_, rest.rest.stopping, rest.rest.abortRequested⟩
  · exact rest.passive.kept
  · rcases rest.rest.of_served (by simp [current]) with beginning | opened
    · exact .inr (.inl { beginning with .. })
    · exact .inr (.inr { opened with .. })

theorem reading_alike {server : Nat} (rest : AtRest world) (data data' buffer buffer' : Bytes) :
    Alike True (world.reading server data buffer) (world.reading server data' buffer') where
  parts := ⟨_, buffer', rfl⟩
  seen := by
    change (world.noting _).seen = (world.noting _).seen
    simp [seen_noting, Seen]
  buffer := .inl trivial
  passive _ := rest.passive.kept

theorem receive_in_two (sightless : Sightless nested) {server : Nat} {first second : Bytes}
    (rest : AtRest world)
    (reads : world.session.server = some server → Readable world (first ++ second)) :
    Ensures (receive nested server (first ++ second)) world fun _ together =>
      Ensures (receive nested server first) world fun _ begun =>
        Ensures (receive nested server second) begun fun _ apart =>
          Alike False together apart := by
  by_cases current : world.session.server = some server
  · have readable := reads current
    have whole := readable.whole
    rw [← List.append_assoc] at whole
    obtain ⟨notes, later, notes', together, apart, after⟩ := feed_in_two whole
    simp only [ensures_receive current rest.rest.stopping, together, apart]
    exact handleFeed_in_two sightless (reading_alike rest _ _ _ _) (rest.reading current _ _)
      (rest.reading current _ _) current rfl readable.hashable_first after
  · have dropped : ¬ (world.session.server = some server ∧ world.session.stopping = false) :=
      fun both => current both.1
    have start : Alike False world world := .refl False.elim
    simp only [ensures_receive_dropped dropped]
    rw [ensures_receive_dropped (by exact dropped)]
    exact ((start.noting_left rfl).noting_right rfl).noting_right rfl

/-- Of a chunk the rest is kept, unless the session has ended. -/
theorem receive_keeps {server : Nat} {chunk : Bytes} (rest : AtRest world)
    (reads : world.session.server = some server → Readable world chunk) :
    Ensures (receive nested server chunk) world fun _ after =>
      after.session.server = some server →
        world.session.server = some server ∧
          after.session.buffer = (Frame.cut (world.session.buffer ++ chunk)).rest := by
  by_cases current : world.session.server = some server
  · have readable := reads current
    have resting := rest.reading current chunk (Frame.cut (world.session.buffer ++ chunk)).rest
    have recorded := resting.recording
      ((Frame.cut (world.session.buffer ++ chunk)).payloads.filterMap Frame.Payload.note?)
    rw [ensures_receive current rest.rest.stopping, Frame.feed_of_incomplete readable.whole,
      handleFeed_messages, ensures_bind, ensures_records]
    dsimp only
    rw [ensures_bind]
    refine (handleMessages_passive server _ recorded.passive (.inl recorded.rest)).mono ?_
    rintro (fault | _) handled ⟨passive, settled, -, buffer⟩
    · exact fun _ => ⟨current, buffer⟩
    · rcases settled with rest | failing
      · rw [rest.unstopped]
        exact fun _ => ⟨current, buffer⟩
      · refine (failing.ended passive).mono ?_
        rintro _ after ⟨ended, -⟩ served
        simp [ended.server] at served
  · rw [ensures_receive_dropped fun both => current both.1]
    exact fun served => (current served).elim

theorem Readable.later {first second : Bytes} (readable : Readable world (first ++ second))
    (kept : world'.session.buffer = (Frame.cut (world.session.buffer ++ first)).rest) :
    Readable world' second := by
  obtain ⟨whole, hashable⟩ := readable
  rw [← List.append_assoc] at whole hashable
  have cut := Frame.cut_append second (Frame.cut_beginning whole)
  constructor
  · rw [cut] at whole
    rw [kept]
    exact whole
  · intro message member
    apply hashable
    rw [messagesIn, cut, List.filterMap_append]
    rw [kept] at member
    exact List.mem_append_right _ member

theorem Readable.first {first second : Bytes} (readable : Readable world (first ++ second)) :
    Readable world first := by
  refine ⟨?_, readable.hashable_first⟩
  have whole := readable.whole
  rw [← List.append_assoc] at whole
  exact Frame.cut_beginning whole

end

/-! ## Chunks of one stream -/

section

variable {world : World} {server depth : Nat}

/-- The server has been made, and the journal tells so. -/
structure Made (server : Nat) (world : World) : Prop where
  sound : Sound world
  served : .serving (some server) ∈ world.journal.entries

theorem Made.raw (made : Made server world) (depth : Nat) (data : Bytes) :
    Made server (after (performWith (nestedCalls depth) (.raw (some server) data)) world) ∧
      after (performWith (nestedCalls depth) (.raw (some server) data)) world =
        after (receive (nestedCalls depth) server data) world := by
  obtain ⟨sound, grows⟩ := performWith_keeps depth (.raw (some server) data) world made.sound
  refine ⟨⟨sound, grows.journal.subset made.served⟩, ?_⟩
  have raw (post : Except Fault Json → World → Prop) :
      Ensures (performWith (nestedCalls depth) (.raw (some server) data)) world post ↔ _ :=
    ensures_raw (made.sound.servers server made.served) post
  exact (raw fun _ world' => world' = _).mpr rfl

/-- Chunks are read as if they came at once. -/
theorem chunks_together {chunks : List Bytes} (some_chunk : chunks ≠ []) (made : Made server world)
    (rest : AtRest world)
    (reads : world.session.server = some server → Readable world chunks.flatten) :
    Alike False (after (receive (nestedCalls depth) server chunks.flatten) world)
      (leftBy world (turns (performWith (nestedCalls depth)) world (chunksFrom server chunks))) := by
  induction chunks generalizing world with
  | nil => exact (some_chunk rfl).elim
  | cons chunk chunks ih =>
      obtain ⟨made, same⟩ := made.raw depth chunk
      rw [chunksFrom, List.map_cons, turns, leftBy_cons, turn_after]
      rw [same] at made ⊢
      cases chunks with
      | nil =>
          rw [List.flatten_singleton]
          exact .refl False.elim
      | cons second later =>
          have rest' : AtRest (after (receive (nestedCalls depth) server chunk) world) :=
            receive_passive server chunk rest
          have kept : Ensures (receive (nestedCalls depth) server chunk) world fun _ after => _ :=
            receive_keeps rest fun current => (reads current).first
          have once := receive_in_two (nestedCalls_sightless depth) rest reads
          refine Alike.trans once (ih (List.cons_ne_nil _ _) made rest' fun current => ?_)
          obtain ⟨before, buffer⟩ := kept current
          exact (reads before).later buffer

/-- Without a chunk nothing is read, which is the same where no whole frame was kept. -/
theorem no_chunk (rest : AtRest world) (current : world.session.server = some server)
    (kept : Frame.front world.session.buffer = .incomplete) :
    Alike False (after (receive (nestedCalls depth) server []) world) world := by
  have fed : Frame.feed world.session.buffer [] = ⟨[], [], none, world.session.buffer, none⟩ := by
    simp [Frame.feed, Frame.cut_of_incomplete kept]
  have read : Ensures (receive (nestedCalls depth) server []) world fun _ world' =>
      Alike False world' world := by
    rw [ensures_receive current rest.rest.stopping, fed, handleFeed_messages, ensures_bind,
      ensures_records]
    dsimp only
    rw [handleMessages, ensures_bind, ensures_pure]
    dsimp only
    rw [Rest.unstopped]
    · refine ⟨⟨world.journal, world.session.buffer, rfl⟩, ?_, .inr rfl, False.elim⟩
      have unseen : (world.noting (.arrived server [])).seen = world.seen := by
        simp [seen_noting, Seen]
      rw [seen_recording]
      exact unseen.symm
    · exact rest.rest
  exact read

theorem chunks_as_one {chunks : List Bytes} (depth : Nat) (made : Made server world) (rest : AtRest world)
    (current : world.session.server = some server) (readable : Readable world chunks.flatten)
    (apart : chunks ≠ [] ∨ Frame.front world.session.buffer = .incomplete) :
    Alike False (after (receive (nestedCalls depth) server chunks.flatten) world)
      (leftBy world (turns (performWith (nestedCalls depth)) world (chunksFrom server chunks))) := by
  by_cases some_chunk : chunks = []
  · subst some_chunk
    exact no_chunk rest current (apart.resolve_left fun none => none rfl)
  · exact chunks_together some_chunk made rest fun _ => readable

/--
However the output of the current server is cut into chunks, the same handlers are called,
the same events told and the same messages written, and the same session is left.
-/
theorem chunks_agree {chunks chunks' : List Bytes} (depth : Nat) (reached : Reached world)
    (rest : AtRest world) (current : world.session.server = some server)
    (same : chunks'.flatten = chunks.flatten) (readable : Readable world chunks.flatten)
    (apart : chunks ≠ [] ∧ chunks' ≠ [] ∨ Frame.front world.session.buffer = .incomplete) :
    Alike False
      (leftBy world (turns (performWith (nestedCalls depth)) world (chunksFrom server chunks)))
      (leftBy world
        (turns (performWith (nestedCalls depth)) world (chunksFrom server chunks'))) := by
  have made : Made server world := by
    refine ⟨reached.sound, serving_of_standing ?_⟩
    rw [reached.sound.server, current]
  have first := chunks_as_one depth made rest current readable (apart.imp_left And.left)
  have second := chunks_as_one depth made rest current (same ▸ readable)
    (apart.imp_left And.right)
  rw [same] at second
  exact first.symm.trans second

/-- The response that is waited for, in two chunks and in one. -/
theorem chunks_agree_of_two : Alike False
    (leftBy waitingWorld (turns (performWith (nestedCalls 0)) waitingWorld
      (chunksFrom 0 [answerFrame.take 9, answerFrame.drop 9])))
    (leftBy waitingWorld (turns (performWith (nestedCalls 0)) waitingWorld
      (chunksFrom 0 [answerFrame]))) :=
  chunks_agree 0 waitingWorld_reached waitingWorld_rest (by decide +kernel) (by decide +kernel)
    ⟨by decide +kernel, by decide +kernel⟩ (.inl ⟨by decide, by decide⟩)

end

end Client

end LanguageSession
