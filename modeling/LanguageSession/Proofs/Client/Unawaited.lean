import Mathlib
import LanguageSession.Proofs.Client.Calls
import LanguageSession.Proofs.Client.Streams
import LanguageSession.Proofs.Frame.RoundTrip

/-!
# Responses that nobody waits for

A response whose id is not in use might as well not have been sent.  This needs an id that
can be looked up: a list or an object cannot be, and then a session in which anybody waits
for anything fails, and the messages after it in the same chunk are lost.
-/

namespace LanguageSession

namespace Client

open Act

/-- Nobody waits for the response with this id. -/
def Unawaited (message : Json) (world : World) : Prop :=
  world.session.pending.find? (message.member "id") = none

/-- The id can be looked up, or there is nothing to look it up in. -/
def Usable (message : Json) (world : World) : Prop :=
  (message.member "id").checkKey = .ok () ∨ world.session.pending.entries = []

theorem take_unawaited {message : Json} {world : World} (unawaited : Unawaited message world)
    (usable : Usable message world) :
    world.session.pending.take (message.member "id") = .ok (none, world.session.pending) := by
  rcases usable with hashable | nobody
  · exact Registry.take_missed hashable (Option.map_eq_none_iff.mp unawaited)
  · obtain ⟨⟨entries⟩, pending⟩ : ∃ registry, registry = world.session.pending := ⟨_, rfl⟩
    rw [← pending] at nobody ⊢
    obtain rfl : entries = [] := nobody
    rfl

section

variable {nested : Nested} {message : Json} {world : World}

theorem handleMessage_unawaited (response : Message.classify message = .response)
    (taken : world.session.pending.take (message.member "id") = .ok (none, world.session.pending)) :
    Ensures (handleMessage nested message) world fun ending world' => ending = .ok () ∧
      world' = (world.noting (.logged (Log.messageIn message))).noting
        (.logged (Log.untrackedResponse (message.member "id"))) := by
  have taken : (world.noting (.logged (Log.messageIn message))).session.pending.take
      (message.member "id") = .ok (none, world.session.pending) := taken
  unfold handleMessage
  simp only [record, ensures_bind, ensures_write, add_eq_noting, response, Registry.resolve,
    ensures_getPending, taken, ensures_ofExcept, ensures_pure]
  exact ⟨trivial, trivial⟩

/-- An id that cannot be looked up ends the handling of the chunk. -/
theorem handleMessage_unusable {fault : Fault} (response : Message.classify message = .response)
    (refused : (message.member "id").checkKey = .error fault)
    (awaited : world.session.pending.entries ≠ []) :
    Ensures (handleMessage nested message) world fun ending world' => ending = .error fault ∧
      world' = world.noting (.logged (Log.messageIn message)) := by
  have taken : (world.noting (.logged (Log.messageIn message))).session.pending.take
      (message.member "id") = .error fault := by
    have left : world.session.pending.take (message.member "id") = .error fault ∨ _ :=
      Registry.take_unhashable refused
    rcases left with same | missed
    · exact same
    · cases entries : world.session.pending.entries with
      | nil => exact (awaited entries).elim
      | cons entry rest => simp [Registry.take, entries, refused, bind, Except.bind] at missed
  unfold handleMessage
  simp only [record, ensures_bind, ensures_write, add_eq_noting, response, Registry.resolve,
    ensures_getPending, taken, ensures_ofExcept]
  exact ⟨trivial, trivial⟩

/-- In alike worlds the response may stand before other messages, or not. -/
theorem handleMessages_unawaited (unaware : Unaware False nested) (server : Nat)
    (later : List Json) {world' : World} (response : Message.classify message = .response)
    (unawaited : Unawaited message world) (usable : Usable message world)
    (alike : Alike False world world') :
    Matches (Alike False) (handleMessages nested server (message :: later))
      (handleMessages nested server later) world world' := by
  rw [Matches, handleMessages, ensures_bind]
  simp only [ensures_getSession]
  split
  · simp only [ensures_bind, ensures_write, add_eq_noting]
    refine (handleMessage_unawaited response ?_).mono ?_
    · exact take_unawaited unawaited usable
    · rintro _ _ ⟨rfl, rfl⟩
      refine handleMessages_blind unaware server later _ _ ?_
      exact ((alike.noting_left rfl).noting_left rfl).noting_left rfl
  · next halts =>
    have same : world'.session.abortRequested = world.session.abortRequested ∧
        world'.session.server = world.session.server := by
      obtain ⟨journal, buffer, rfl⟩ := alike.parts
      exact ⟨rfl, rfl⟩
    cases later with
    | nil => exact ⟨rfl, alike⟩
    | cons next later =>
        simp only [ensures_pure, handleMessages, ensures_bind, ensures_getSession, same, halts,
          Bool.false_eq_true, if_false]
        exact ⟨trivial, alike⟩

end

/-- The world in which the first messages of a chunk have been handled. -/
def World.having (world : World) (nested : Nested) (server : Nat) (messages : List Json)
    (buffer : Bytes) : World :=
  after (handleMessages nested server messages)
    { world with session := { world.session with buffer := buffer } }

section

variable {world world' : World} {message : Json}

theorem Alike.unawaited (alike : Alike False world world') (unawaited : Unawaited message world) :
    Unawaited message world' := by
  obtain ⟨journal, buffer, rfl⟩ := alike.parts
  exact unawaited

theorem Alike.usable (alike : Alike False world world') (usable : Usable message world) :
    Usable message world' := by
  obtain ⟨journal, buffer, rfl⟩ := alike.parts
  exact usable

theorem records_alike {start noted : World} (notes : List Log.Record)
    (alike : Alike False world start)
    (noting : result (notes.forM record) start = (.ok (), noted)) : Alike False world noted := by
  have kept : Ensures (notes.forM record) start fun _ => Alike False world :=
    Ensures.forM (fun note _ _ alike => alike.noting_right rfl) alike
  rwa [Ensures, noting] at kept

theorem handles_alike {nested : Nested} (unaware : Unaware False nested) {server : Nat}
    {messages : List Json} {handled : World} (alike : Alike False world world')
    (handling : result (handleMessages nested server messages) world' = (.ok (), handled)) :
    Alike False (after (handleMessages nested server messages) world) handled := by
  have both := (handleMessages_blind unaware server messages _ _ alike).2
  rwa [handling] at both

end

/-- What a chunk of whole frames is read as, with and without one frame. -/
theorem feed_without {buffer before frame later : Bytes} {message : Json}
    (begins : (Frame.cut (buffer ++ before)).ending = .incomplete)
    (complete : (Frame.cut (buffer ++ before)).rest = [])
    (framed : Frame.cut frame = ⟨[.message message], [], .incomplete⟩)
    (ends : (Frame.cut later).ending = .incomplete) :
    ∃ notes messages, Frame.feed buffer (before ++ later) =
        ⟨messagesIn (buffer ++ before) ++ messages, notes, none, (Frame.cut later).rest, none⟩ ∧
      Frame.feed buffer (before ++ (frame ++ later)) =
        ⟨messagesIn (buffer ++ before) ++ message :: messages, notes, none,
          (Frame.cut later).rest, none⟩ := by
  have without := Frame.cut_append later begins
  have framed_ends : (Frame.cut frame).ending = .incomplete := by rw [framed]
  have together := Frame.cut_append (frame ++ later) begins
  rw [complete, List.nil_append] at without together
  rw [Frame.cut_append later framed_ends, framed, List.nil_append] at together
  refine ⟨(Frame.cut (buffer ++ before ++ later)).payloads.filterMap Frame.Payload.note?,
    messagesIn later, ?_, ?_⟩
  · simp [Frame.feed, ← List.append_assoc, without, ends, messagesIn]
  · simp only [Frame.feed, ← List.append_assoc buffer, without, together, ends, messagesIn]
    simp only [List.cons_append, List.nil_append, List.filterMap_append]
    rfl

/--
A response that nobody waits for is without effect in any chunk of whole frames: with it and
without it the same is seen, and the client and its servers are left the same.
-/
theorem receive_without_unawaited {world : World} {server : Nat} {before frame later : Bytes}
    {message : Json} (depth : Nat)
    (begins : (Frame.cut (world.session.buffer ++ before)).ending = .incomplete)
    (complete : (Frame.cut (world.session.buffer ++ before)).rest = [])
    (framed : Frame.cut frame = ⟨[.message message], [], .incomplete⟩)
    (ends : (Frame.cut later).ending = .incomplete)
    (response : Message.classify message = .response)
    (unawaited : Unawaited message (world.having (nestedCalls depth) server
      (messagesIn (world.session.buffer ++ before)) (Frame.cut later).rest))
    (usable : Usable message (world.having (nestedCalls depth) server
      (messagesIn (world.session.buffer ++ before)) (Frame.cut later).rest)) :
    Matches (Alike False) (receive (nestedCalls depth) server (before ++ (frame ++ later)))
      (receive (nestedCalls depth) server (before ++ later)) world world := by
  have unaware := (nestedCalls_sightless depth).unaware
  obtain ⟨notes, messages, without, together⟩ := feed_without begins complete framed ends
  have start (world : World) : Alike False world world := .refl False.elim
  have arrived : Alike False (world.noting (.arrived server (before ++ (frame ++ later))))
      (world.noting (.arrived server (before ++ later))) :=
    ((start _).noting_left rfl).noting_right rfl
  by_cases reads : world.session.server = some server ∧ world.session.stopping = false
  · simp only [Matches, ensures_receive reads.1 reads.2, without, together, handleFeed_messages,
      handleMessages_append]
    have begun := blind_buffer (Frame.cut later).rest _ _ arrived
    refine Matches.bind (Agrees.forM (fun note _ => blind_record note) _ _ begun.2) ?_
    rintro _ noted noted' alike noting
    refine Matches.bind (Matches.bind (handleMessages_blind unaware server _ _ _ alike) ?_) ?_
    · rintro _ handled handled' alike handling
      let ready : World :=
        { world with session := { world.session with buffer := (Frame.cut later).rest } }
      have arriving : Alike False ready
          (ready.noting (.arrived server (before ++ (frame ++ later)))) :=
        (start ready).noting_right rfl
      -- before the response the two runs can only be told apart by what has arrived
      have same := handles_alike unaware (records_alike notes arriving noting) handling
      refine handleMessages_unawaited unaware server messages response ?_ ?_ alike
      · exact same.unawaited unawaited
      · exact same.usable usable
    · exact fun _ _ _ alike _ => stopIfAborted_blind unaware _ _ alike
  · simp only [Matches, ensures_receive_dropped reads]
    exact ⟨trivial, arrived⟩

instance (message : Json) (world : World) : Decidable (Unawaited message world) :=
  inferInstanceAs (Decidable (_ = none))

def misdirected : Json := .object [("id", .literal "nobody"), ("result", .nat 7)]

theorem misdirected_portable : Frame.Portable misdirected := by
  refine ⟨rfl, .object _ (by decide) ?_⟩
  simp only [List.mem_cons, List.not_mem_nil, or_false, forall_eq_or_imp, forall_eq]
  exact ⟨.string _, .integer _ (by decide +kernel)⟩

/-- The response comes before one that is waited for. -/
theorem receive_without_misdirected : ∃ frame, Frame.encode misdirected = .ok frame ∧
    Matches (Alike False) (receive (nestedCalls 0) 0 ([] ++ (frame ++ answerFrame)))
      (receive (nestedCalls 0) 0 ([] ++ answerFrame)) waitingWorld waitingWorld := by
  obtain ⟨frame, written⟩ : ∃ frame, Frame.Written misdirected frame :=
    Frame.written_of_short (by decide +kernel)
  have framed : Frame.cut frame = ⟨[.message misdirected], [], .incomplete⟩ := by
    rw [← List.append_nil frame, Frame.cut_written [] misdirected_portable written]
    rw [Frame.cut_of_incomplete rfl]
  refine ⟨frame, written.1, ?_⟩
  exact receive_without_unawaited 0 (by decide +kernel) (by decide +kernel) framed
    (by decide +kernel) (by decide +kernel) (by decide +kernel) (.inl rfl)

end Client

end LanguageSession
