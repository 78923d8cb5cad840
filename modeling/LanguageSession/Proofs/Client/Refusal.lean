import Mathlib
import LanguageSession.Proofs.Client.Conversation
import LanguageSession.Proofs.Client.Reads
import LanguageSession.Proofs.Client.Unawaited

/-!
# Servers that refuse the session

A server refuses the session when it answers `initialize` with an error object that has a
member.  Then the session ends without being opened, and one event tells why: whatever else
the server has sent, and however its output is cut into chunks.
-/

namespace LanguageSession

namespace Client

open Act

/-! ## Events -/

def emission : Entry → Option Event
  | .emitted event => some event
  | _ => none

def emissions (entries : List Entry) : List Event := entries.filterMap emission

def World.events (world : World) : List Event := emissions world.journal.entries

def Eventless (entry : Entry) : Prop := emission entry = none

section

variable {world world' : World}

theorem Adds.events (adds : Adds Eventless world world') : world'.events = world.events := by
  obtain ⟨added, grown, eventless⟩ := adds
  have nothing : emissions added = [] := List.filterMap_eq_nil_iff.mpr eventless
  rw [World.events, grown, emissions, List.filterMap_append, World.events]
  exact (congrArg _ nothing).trans (List.append_nil _)

theorem eventless_write {entry : Entry} (eventless : Eventless entry) :
    Within (Adds Eventless) (write entry : Act World Unit) := adds_noting eventless

theorem eventless_record (note : Log.Record) :
    Within (Adds Eventless) (record note : Act World Unit) := eventless_write rfl

theorem eventless_modifyServer (server : Nat) (change : Server → Server) :
    Within (Adds Eventless) (modifyThe World (World.modifyServer server change) : Act World Unit) :=
  fun _ => adds_of_journal rfl

theorem eventless_modifySession (change : Session → Session) :
    Within (Adds Eventless) (modifyThe Session change : Act World Unit) :=
  fun _ => adds_of_journal rfl

theorem eventless_getSession : Within (Adds Eventless) (getThe Session : Act World Session) :=
  fun world => refl_of (Adds Eventless) world

theorem look_eventless (server : Nat) : Within (Adds Eventless) (look server) :=
  Within.bind (eventless_modifyServer _ _) fun _ => Within.bind within_get fun _ =>
    Within.bind (eventless_write rfl) fun _ => within_pure _

theorem setPhase_eventless (phase : Phase) : Within (Adds Eventless) (setPhase phase) := by
  refine Within.bind eventless_getSession fun session => ?_
  split
  · exact within_pure _
  · exact Within.bind (eventless_record _) fun _ => eventless_modifySession _

theorem dismiss_eventless (server : Nat) (graceful : Bool) :
    Within (Adds Eventless) (dismiss server graceful) := by
  have waits (timeout : Duration) : Within (Adds Eventless) (wait server timeout) :=
    Within.bind (eventless_write rfl) fun _ => eventless_modifyServer _ _
  have kills : Within (Adds Eventless) (kill server) :=
    Within.bind (eventless_write rfl) fun _ => eventless_modifyServer _ _
  have closes : Within (Adds Eventless) (close server) := by
    refine Within.bind (eventless_write rfl) fun _ => Within.bind within_get fun world => ?_
    split
    · exact within_throw _
    · exact within_pure _
  refine Within.bind within_get fun world => ?_
  have forced : Within (Adds Eventless) (look server >>= fun running =>
      if running = true then do
        kill server
        wait server world.settings.killGrace
        close server
      else close server) := by
    refine Within.bind (look_eventless server) fun running => ?_
    split
    · exact Within.bind kills fun _ => Within.bind (waits _) fun _ => closes
    · exact closes
  dsimp only
  split
  · exact Within.bind (waits _) fun _ => forced
  · exact forced

variable {nested : Nested}

theorem tell_eventless (listener : Listener) (event : Event) (passive : Passive world) :
    Ensures (tell nested listener event) world fun _ => Adds Eventless world := by
  cases listener with
  | callback who =>
      cases known : world.cast.callbacks[who]? with
      | none =>
          simp only [tell, invoke, ensures_bind, ensures_getCast, known]
          exact refl_of (Adds Eventless) world
      | some callback =>
          refine (invoke_idle _ known (passive.callbacks who callback known)).mono ?_
          rintro _ world' ⟨-, rfl⟩
          have called : Eventless (.called who callback.kind callback.name event.arguments) := rfl
          exact adds_noting called world
  | echo =>
      cases event with
      | log text =>
          have shown : Eventless (.shown (Terminal.serverLine text)) := rfl
          exact eventless_write shown world
      | _ => exact refl_of (Adds Eventless) world
  | collect =>
      cases event with
      | diagnostics uri items => exact adds_of_journal rfl
      | _ => exact refl_of (Adds Eventless) world

/-- An event is told once, and listeners that do not call the client bring about no other. -/
theorem emit_events (event : Event) (passive : Passive world) :
    Ensures (emit nested event) world fun _ world' => world'.events = world.events ++ [event] := by
  have noted : (world.noting (.emitted event)).events = world.events ++ [event] :=
    List.filterMap_append
  have tells : Ensures (emit nested event) world fun _ world' =>
      Passive world' ∧ Adds Eventless (world.noting (.emitted event)) world' := by
    simp only [emit, Subscriptions.emit, ensures_bind, ensures_getSubscriptions, ensures_write,
      add_eq_noting]
    refine Ensures.forM ?_ ⟨?_, refl_of (Adds _) _⟩
    · rintro listener _ told ⟨passive, adds⟩
      rw [contain, ensures_tryCatch]
      refine ((tell_leaves listener event told).and (tell_eventless listener event passive)).mono ?_
      rintro ending heard ⟨leaves, later⟩
      have passive := (leaves passive).passive
      have adds := trans_of (Adds Eventless) adds later
      cases ending with
      | ok _ => exact ⟨passive, adds⟩
      | error fault =>
          have reports : Within (Adds Eventless)
              (do record (Log.listenerFailed (← listenerLabel listener)) : Act World Unit) := by
            refine Within.bind (fun world => ?_) fun label => eventless_record _
            cases listener <;> exact refl_of (Adds Eventless) world
          have left : Ensures (do record (Log.listenerFailed (← listenerLabel listener)))
              heard fun _ => Leaves heard := reportListener_within listener heard
          refine (left.and (reports heard)).mono ?_
          exact fun _ _ both => ⟨(both.1 passive).passive, trans_of (Adds Eventless) adds both.2⟩
    · exact passive.kept
  exact tells.mono fun _ _ told => told.2.events.trans noted

theorem emitLog_events (text : Text) (passive : Passive world) :
    Ensures (emitLog nested text) world fun _ world' =>
      world'.events = world.events ++ [.log text] := by
  unfold emitLog
  rw [ensures_bind, record, ensures_write, add_eq_noting]
  have noted : (world.noting (.logged (Log.sessionEvent text))).events = world.events :=
    (eventless_record _ world).events
  refine (emit_events (.log text) ?_).mono fun _ _ told => told.trans (by rw [noted])
  exact passive.kept

theorem deliver_eventless (server : Nat) (message : Json) (data : Bytes) (passive : Passive world) :
    Ensures (deliver nested server message data) world fun _ => Adds Eventless world := by
  unfold deliver
  rw [ensures_bind]
  simp only [ensures_get]
  split
  · exact refl_of (Adds Eventless) world
  · next process known =>
    have silent := passive.servers process (List.mem_of_getElem? known)
    refine Within.bind (eventless_modifyServer _ _) (fun _ => ?_) world
    split
    · exact Within.bind (eventless_write rfl) fun _ => within_pure _
    · refine Within.bind (eventless_write rfl) fun _ => ?_
      refine Within.bind (eventless_modifyServer _ _) fun _ => ?_
      rw [silent]
      exact Within.bind (within_pure _) fun _ => within_pure _

/-- A failed write is told, and asks for the end of the session. -/
theorem writeMessage_events (message : Json) (data : Bytes) (passive : Passive world) :
    Ensures (writeMessage nested message data) world fun _ world' =>
      ∃ texts : List Text, world'.events = world.events ++ texts.map .log ∧
        (world'.session.abortRequested = false → texts = []) := by
  unfold writeMessage
  rw [ensures_bind]
  simp only [ensures_getSession]
  split
  · exact ⟨[], (List.append_nil _).symm, fun _ => rfl⟩
  · next server served =>
    rw [ensures_bind]
    refine ((Succeeds.left (look_succeeds server) (look_within server) passive).and
      (look_eventless server world)).mono ?_
    rintro _ looked ⟨⟨⟨running, rfl⟩, left⟩, adds⟩
    dsimp only
    split
    · rw [ensures_bind]
      refine ((deliver_passive server message data looked left.passive).and
        (deliver_eventless server message data left.passive)).mono ?_
      rintro _ delivered ⟨⟨⟨failure, rfl⟩, passive, -⟩, later⟩
      have same := later.events.trans adds.events
      cases failure with
      | none =>
          refine (eventless_record _ delivered).mono fun _ _ last => ?_
          exact ⟨[], by simp [last.events, same], fun _ => rfl⟩
      | some reason =>
          dsimp only
          rw [ensures_bind]
          refine ((Succeeds.left (emitLog_succeeds _) (emitLog_leaves _) passive).and
            (emitLog_events _ passive)).mono ?_
          rintro _ told ⟨⟨⟨_, rfl⟩, -⟩, last⟩
          refine ⟨["LSP process I/O error: " ++ reason], ?_, fun goes_on => ?_⟩
          · exact last.trans (congrArg (· ++ _) same)
          · cases goes_on
    · exact ⟨[], adds.events.trans (List.append_nil _).symm, fun _ => rfl⟩

/-! ## Messages to a session that is not open yet -/

/-- The event that a message stands for, if it is a notification. -/
def notified (message : Json) : Option Event :=
  match Message.classify message with
  | .notification => Event.ofNotification? message
  | _ => none

theorem notified_channel {message : Json} {event : Event} (told : event ∈ notified message) :
    event.channel ≠ .ready := by
  simp only [notified, Event.ofNotification?] at told
  split at told
  · split at told
    · split_ifs at told
      · obtain rfl := Option.some.inj told
        simp [Event.channel]
      · obtain rfl := Option.some.inj told
        simp [Event.channel]
      · cases told
    · cases told
  · cases told

/-- Since then these events were told, and the server was handed these messages. -/
structure Uttered (server : Nat) (events : List Event) (items : List (Json × Bool))
    (world world' : World) : Prop where
  events : world'.events = world.events ++ events
  items : ∀ other, world'.told other = world.told other ++ if other = server then items else []

structure Withheld (events : List Event) (items : List (Json × Bool)) : Prop where
  events : ∀ event ∈ events, event.channel ≠ .ready
  items : ∀ item ∈ items, item.1 ≠ opening

/-- The session is to be ended without having been opened. -/
structure Fails (server : Nat) (events : List Event) (items : List (Json × Bool))
    (world world' : World) : Prop where
  passive : Passive world'
  failing : Failing world'.session
  unready : world'.session.ready = false
  told : Uttered server events items world world'
  withheld : Withheld events items

/-- The session has told no more than expected and goes on, or a message was not taken. -/
inductive Waits (server : Nat) (expected : List Event) (world world' : World) : Prop
  | on {items : List (Json × Bool)} (passive : Passive world')
      (same : world'.session = world.session) (told : Uttered server expected items world world')
      (withheld : Withheld expected items)
  | ends {events : List Event} {items : List (Json × Bool)}
      (fails : Fails server events items world world') (refused : ∃ message, (message, false) ∈ items)

variable {server : Nat} {events events' : List Event} {items items' : List (Json × Bool)}

theorem Uttered.trans {world'' : World} (before : Uttered server events items world world')
    (after : Uttered server events' items' world' world'') :
    Uttered server (events ++ events') (items ++ items') world world'' where
  events := by rw [after.events, before.events, List.append_assoc]
  items other := by
    rw [after.items, before.items]
    split <;> simp

theorem uttered_of_adds (adds : Adds Eventless world world') (hushed : Hushed world world') :
    Uttered server [] [] world world' where
  events := by rw [adds.events, List.append_nil]
  items other := by rw [hushed.told, ite_self, List.append_nil]

theorem Withheld.append (before : Withheld events items) (after : Withheld events' items') :
    Withheld (events ++ events') (items ++ items') where
  events event member := (List.mem_append.mp member).elim (before.events event) (after.events event)
  items item member := (List.mem_append.mp member).elim (before.items item) (after.items item)

theorem withheld_nothing : Withheld [] [] := ⟨by simp, by simp⟩

theorem Fails.after {world'' : World} (told : Uttered server events items world world')
    (withheld : Withheld events items) (fails : Fails server events' items' world' world'') :
    Fails server (events ++ events') (items ++ items') world world'' :=
  { fails with told := told.trans fails.told, withheld := withheld.append fails.withheld }

theorem Waits.after {world'' : World} (told : Uttered server events items world world')
    (withheld : Withheld events items) (same : world'.session = world.session)
    (waits : Waits server events' world' world'') : Waits server (events ++ events') world world'' := by
  cases waits with
  | on passive later told' withheld' =>
      exact .on passive (later.trans same) (told.trans told') (withheld.append withheld')
  | ends fails refused =>
      obtain ⟨message, member⟩ := refused
      exact .ends (.after told withheld fails) ⟨message, List.mem_append_right _ member⟩

theorem waits_of_left (left : Left (fun _ => False) world world')
    (adds : Adds Eventless world world') : Waits server [] world world' :=
  .on left.passive left.session (uttered_of_adds adds (left.hushed fun _ => False.elim))
    withheld_nothing

theorem uttered_noting (entry : Entry) (eventless : Eventless entry) (hush : Hush entry)
    (world : World) : Uttered server [] [] world (world.noting entry) :=
  uttered_of_adds (adds_noting eventless world) (hushed_noting hush world)

theorem record_waits (note : Log.Record) (passive : Passive world) :
    Ensures (record note) world fun ending world' =>
      ending = .ok () ∧ Waits server [] world world' := by
  refine ((Succeeds.left (record_succeeds note) (within_record note) passive).and
    (eventless_record note world)).mono ?_
  rintro _ world' ⟨⟨⟨_, rfl⟩, left⟩, adds⟩
  exact ⟨rfl, waits_of_left left adds⟩

theorem IsAnswer.no_method {message : Json} (answers : IsAnswer message) :
    message.member? "method" = none := by
  obtain ⟨request, root, reply, -, replied, rfl⟩ := answers
  unfold Answer.reply at replied
  split at replied
  · cases replied
  · cases replied
  · obtain rfl := Except.ok.inj replied
    unfold Answer.toMethod
    dsimp only
    split_ifs <;> rfl

theorem IsAnswer.ne_opening {message : Json} (answers : IsAnswer message) : message ≠ opening := by
  rintro rfl
  have method : opening.member? "method" = some (.literal "initialized") := rfl
  rw [answers.no_method] at method
  cases method

section

variable (rest : AtRest world) (unready : world.session.ready = false)
  (current : world.session.server = some server)

include rest unready current

theorem writeMessage_waits {message : Json} (data : Bytes) (other : message ≠ opening) :
    Ensures (writeMessage nested message data) world fun ending world' =>
      ending = .ok () ∧ Waits server [] world world' := by
  refine ((writeMessage_delivers message data rest.passive).and
    ((writeMessage_passive message data world rest.passive).and
      (writeMessage_events message data rest.passive))).mono ?_
  rintro _ world' ⟨delivered, ⟨⟨_, rfl⟩, passive, -⟩, texts, told, goes_on⟩
  refine ⟨rfl, ?_⟩
  have withheld (accepted : Bool) : Withheld (texts.map .log) [(message, accepted)] := by
    refine ⟨?_, by simpa using other⟩
    simp [Event.channel]
  -- only a message that was not taken brings the session closer to its end
  cases delivered with
  | unheard same hushed =>
      obtain rfl := goes_on (same ▸ rest.rest.abortRequested)
      refine .on passive same ⟨told, fun other => ?_⟩ withheld_nothing
      rw [hushed.told, ite_self, List.append_nil]
  | @heard heard accepted served runs same items =>
      obtain rfl := Option.some.inj (current.symm.trans served)
      rw [rest.rest.abortRequested, Bool.false_or] at same
      cases accepted with
      | true =>
          obtain rfl := goes_on (by rw [same]; rfl)
          refine .on passive ?_ ⟨told, items⟩ (withheld true)
          rw [same, Bool.not_true, ← rest.rest.abortRequested]
      | false =>
          refine .ends ⟨passive, ?_, ?_, ⟨told, items⟩, withheld false⟩ ⟨message, by simp⟩
          · rw [same]
            exact ⟨by simp [current], rest.rest.stopping, rfl⟩
          · rw [same]
            exact unready

theorem answerRequest_waits {message : Json} (request : Message.classify message = .request) :
    Ensures (answerRequest nested message) world fun ending world' =>
      ending = .ok () ∧ Waits server [] world world' := by
  obtain ⟨reply, replied⟩ := reply_of_request request world.session.root
  have other : reply.envelope ≠ opening :=
    IsAnswer.ne_opening ⟨message, _, reply, request, replied, rfl⟩
  have sends {start : World} (rest : AtRest start) (unready : start.session.ready = false)
      (current : start.session.server = some server) :
      Ensures (sendReply nested message reply.envelope) start fun ending world' =>
        ending = .ok () ∧ Waits server [] start world' := by
    unfold sendReply
    split
    · exact record_waits _ rest.passive
    · exact writeMessage_waits rest unready current _ other
  unfold answerRequest
  rw [ensures_bind]
  simp only [ensures_getSession]
  rw [ensures_bind, ensures_ofExcept, replied]
  dsimp only
  split
  · next note _ =>
    rw [ensures_bind, record, ensures_write, add_eq_noting]
    have resting : AtRest (world.noting (.logged note)) :=
      ⟨rest.passive.kept, rest.rest⟩
    have noted : Uttered server [] [] world _ := uttered_noting (.logged note) rfl trivial world
    have sent := sends resting unready current
    refine sent.mono ?_
    rintro _ world' ⟨ends, waits⟩
    exact ⟨ends, .after noted withheld_nothing rfl waits⟩
  · exact sends rest unready current

end

/-- A message that is no response to `initialize` is answered or told, or comes to nothing. -/
theorem handleMessage_waits {message : Json} (rest : AtRest world)
    (beginning : Beginning world.session) (current : world.session.server = some server)
    (hashable : Hashable message) (other : responds message (.nat 1) = false) :
    Ensures (handleMessage nested message) world fun ending world' =>
      ending = .ok () ∧ Waits server (notified message).toList world world' := by
  have noted : Uttered server [] [] world _ :=
    uttered_noting (.logged (Log.messageIn message)) rfl trivial world
  have resting : AtRest (world.noting (.logged (Log.messageIn message))) :=
    ⟨rest.passive.kept, rest.rest⟩
  have first {start : World} {expected : List Event} {ending : Except Fault Unit}
      (waits : ending = .ok () ∧
        Waits server expected (world.noting (.logged (Log.messageIn message))) start) :
      ending = .ok () ∧ Waits server expected world start :=
    ⟨waits.1, .after noted withheld_nothing rfl waits.2⟩
  cases kind : Message.classify message with
  | response =>
      -- only the session itself waits, and not for this response
      have missed : world.session.pending.entries.find?
          (fun entry => entry.1.sameKey (message.member "id")) = none := by
        simpa [beginning.pending, responds, kind] using other
      refine (handleMessage_unawaited kind (Registry.take_missed (hashable kind) missed)).mono ?_
      rintro ending world' ⟨rfl, rfl⟩
      have silent : notified message = none := by rw [notified, kind]
      rw [silent]
      exact first (record_waits _ resting.passive)
  | request =>
      have silent : notified message = none := by rw [notified, kind]
      unfold handleMessage
      rw [ensures_bind, record, ensures_write, add_eq_noting, silent, kind]
      exact (answerRequest_waits resting beginning.ready current kind).mono fun _ _ => first
  | invalid =>
      have silent : notified message = none := by rw [notified, kind]
      unfold handleMessage
      rw [ensures_bind, record, ensures_write, add_eq_noting, silent, kind]
      exact first (record_waits _ resting.passive)
  | notification =>
      have told : notified message = Event.ofNotification? message := by rw [notified, kind]
      unfold handleMessage
      rw [ensures_bind, record, ensures_write, add_eq_noting, told, kind]
      dsimp only
      split
      · next event known =>
        refine ((Succeeds.left (emit_succeeds event) (emit_leaves event) resting.passive).and
          (emit_events event resting.passive)).mono ?_
        rintro _ world' ⟨⟨⟨_, rfl⟩, left⟩, events⟩
        have hushed := left.hushed fun _ => False.elim
        rw [known]
        have withheld : Withheld (some event).toList [] := by
          refine ⟨fun event' member => notified_channel (?_ : event' ∈ notified message), by simp⟩
          rw [told, known]
          exact Option.mem_toList.mp member
        refine first ⟨rfl, .on left.passive left.session ⟨events, fun other => ?_⟩ withheld⟩
        rw [hushed.told, ite_self, List.append_nil]
      · next unknown =>
        rw [unknown]
        exact first ⟨rfl, waits_of_left (refl_of Leaves _ resting.passive) (refl_of (Adds _) _)⟩

theorem ensures_handleMessages {message : Json} {later : List Json}
    (goes_on : world.session.abortRequested = false)
    (current : world.session.server = some server) (post : Except Fault Unit → World → Prop) :
    Ensures (handleMessages nested server (message :: later)) world post ↔
      Ensures (handleMessage nested message >>= fun _ => handleMessages nested server later)
        (world.noting (.handling server message)) post := by
  rw [handleMessages, ensures_bind]
  simp only [ensures_getSession, goes_on, current, Bool.not_false, decide_true, Bool.and_self,
    if_true, ensures_bind, ensures_write, add_eq_noting]

theorem handleMessages_waits {messages : List Json} (rest : AtRest world)
    (beginning : Beginning world.session) (current : world.session.server = some server)
    (hashable : ∀ message ∈ messages, Hashable message)
    (others : ∀ message ∈ messages, responds message (.nat 1) = false) :
    Ensures (handleMessages nested server messages) world fun ending world' =>
      ending = .ok () ∧ Waits server (messages.filterMap notified) world world' := by
  induction messages generalizing world with
  | nil => exact ⟨rfl, waits_of_left (refl_of Leaves _ rest.passive) (refl_of (Adds _) _)⟩
  | cons message messages ih =>
      rw [ensures_handleMessages rest.rest.abortRequested current, ensures_bind]
      have noted : Uttered server [] [] world _ :=
        uttered_noting (.handling server message) rfl trivial world
      have resting : AtRest (world.noting (.handling server message)) :=
        ⟨rest.passive.kept, rest.rest⟩
      refine (handleMessage_waits resting beginning current (hashable _ List.mem_cons_self)
        (others _ List.mem_cons_self)).mono ?_
      rintro _ handled ⟨rfl, waits⟩
      have waits := Waits.after noted withheld_nothing rfl waits
      have events : (message :: messages).filterMap notified =
          (notified message).toList ++ messages.filterMap notified := by
        rw [List.filterMap_cons]
        cases notified message <;> rfl
      rw [events]
      cases waits with
      | on passive same told withheld =>
          refine (ih ⟨passive, same ▸ rest.rest⟩ (same ▸ beginning) (same ▸ current)
            (fun other member => hashable other (List.mem_cons_of_mem _ member))
            fun other member => others other (List.mem_cons_of_mem _ member)).mono ?_
          exact fun _ _ later => ⟨later.1, .after told withheld same later.2⟩
      | ends fails refused =>
          dsimp only
          rw [handleMessages_aborted messages fails.failing.abortRequested]
          exact ⟨rfl, .ends fails refused⟩

/-! ## The refusal -/

theorem completion_of_refusal {response : Json} {members : List (Text × Json)}
    (refuses : response.member? "error" = some (.object members)) :
    (Completion.ofResponse response).error = .object members := by
  simp [Completion.ofResponse, refuses, Json.isObject]

def refusalEvent (error : Json) : Event := .log ("LSP initialize failed: " ++ Message.errorText error)

theorem finishHandshake_refused {completion : Completion} (passive : Passive world)
    (stopping : world.session.stopping = false) (unready : world.session.ready = false)
    (current : world.session.server = some server)
    (refuses : completion.error.isEmpty = false) :
    Ensures (finishHandshake nested completion) world fun ending world' => ending = .ok () ∧
      Fails server [refusalEvent completion.error] [] world world' := by
  unfold finishHandshake
  rw [ensures_bind]
  simp only [ensures_modifySession, refuses, Bool.false_eq_true, if_false]
  rw [ensures_bind]
  let begun : World := { world with session := { world.session with handshakeId := none } }
  have passive : Passive begun := passive.kept
  have told : Ensures (emitLog nested _) begun fun ending logged =>
      ((∃ value, ending = .ok value) ∧ Left (fun _ => False) begun logged) ∧
        logged.events = begun.events ++ [refusalEvent completion.error] :=
    (Succeeds.left (emitLog_succeeds _) (emitLog_leaves _) passive).and (emitLog_events _ passive)
  refine told.mono ?_
  rintro _ logged ⟨⟨⟨_, rfl⟩, left⟩, events⟩
  have hushed := left.hushed fun _ => False.elim
  simp only [requestAbort, ensures_modifySession]
  refine ⟨trivial, ?_, ⟨?_, ?_, rfl⟩, ?_, ⟨events, fun other => ?_⟩, ?_, by simp⟩
  · exact left.passive.kept
  · simp [left.session, begun, current]
  · simpa [left.session] using stopping
  · simpa [left.session] using unready
  · rw [ite_self, List.append_nil]
    exact hushed.told other
  · simp [refusalEvent, Event.channel]

theorem handleMessage_refused {response : Json} {members : List (Text × Json)}
    (rest : AtRest world) (beginning : Beginning world.session)
    (current : world.session.server = some server) (hashable : Hashable response)
    (answers : responds response (.nat 1) = true)
    (refuses : response.member? "error" = some (.object members)) (member : members ≠ []) :
    Ensures (handleMessage nested response) world fun ending world' => ending = .ok () ∧
      Fails server [refusalEvent (.object members)] [] world world' := by
  simp only [responds, Bool.and_eq_true, decide_eq_true_eq] at answers
  obtain ⟨kind, same⟩ := answers
  have found : world.session.pending.entries.find?
      (fun entry => entry.1.sameKey (response.member "id")) = some (.nat 1, .handshake) := by
    simp [beginning.pending, same]
  obtain ⟨before, after, split, -, taken⟩ := Registry.take_found (hashable kind) found
  have completion := completion_of_refusal refuses
  have error : (Completion.ofResponse response).error.isEmpty = false := by
    rw [completion]
    simpa [Json.isEmpty] using member
  have noted : Uttered server [] [] world _ :=
    uttered_noting (.logged (Log.messageIn response)) rfl trivial world
  unfold handleMessage
  rw [ensures_bind, record, ensures_write, add_eq_noting, kind]
  dsimp only
  rw [ensures_bind]
  simp only [Registry.resolve, ensures_bind, ensures_getPending, ensures_ofExcept, noting_session,
    taken, ensures_setPending, contain, ensures_tryCatch]
  let taking : World := { world.noting (.logged (Log.messageIn response)) with
    session := { world.session with pending := ⟨before ++ after⟩ } }
  have passive : Passive taking :=
    rest.passive.kept
  have finishes : Ensures (finishHandshake nested (Completion.ofResponse response)) taking _ :=
    finishHandshake_refused passive rest.rest.stopping beginning.ready current error
  refine finishes.mono ?_
  rintro _ world' ⟨rfl, fails⟩
  rw [completion] at fails
  have noted : Uttered server [] [] world taking := ⟨noted.events, noted.items⟩
  exact ⟨rfl, .after noted withheld_nothing fails⟩

/-- After the refusal no more messages are handled. -/
theorem handleMessages_refused {before later : List Json} {response : Json}
    {members : List (Text × Json)} (rest : AtRest world) (beginning : Beginning world.session)
    (current : world.session.server = some server)
    (hashable : ∀ message ∈ before ++ response :: later, Hashable message)
    (others : ∀ message ∈ before, responds message (.nat 1) = false)
    (answers : responds response (.nat 1) = true)
    (refuses : response.member? "error" = some (.object members)) (member : members ≠ []) :
    Ensures (handleMessages nested server (before ++ response :: later)) world fun ending world' =>
      ending = .ok () ∧ ∃ events items, Fails server events items world world' ∧
        ((∀ item ∈ items, item.2 = true) →
          events = before.filterMap notified ++ [refusalEvent (.object members)]) := by
  rw [handleMessages_append, ensures_bind]
  refine (handleMessages_waits rest beginning current ?_ others).mono ?_
  · exact fun message member => hashable message (List.mem_append_left _ member)
  · rintro _ waited ⟨rfl, waits⟩
    -- either the session broke off before the refusal, or it ends with it
    cases waits with
    | ends fails refused =>
        dsimp only
        rw [handleMessages_aborted _ fails.failing.abortRequested]
        obtain ⟨message, refused⟩ := refused
        exact ⟨rfl, _, _, fails, fun accepted => by cases accepted _ refused⟩
    | on passive same told withheld =>
        dsimp only
        rw [ensures_handleMessages (same ▸ rest.rest.abortRequested) (same ▸ current), ensures_bind]
        have noted : Uttered server [] [] waited _ :=
          uttered_noting (.handling server response) rfl trivial waited
        refine (handleMessage_refused ⟨?_, same ▸ rest.rest⟩ (same ▸ beginning) (same ▸ current)
          (hashable response (by simp)) answers refuses member).mono ?_
        · exact passive.kept
        · rintro _ refused ⟨rfl, fails⟩
          dsimp only
          rw [handleMessages_aborted _ fails.failing.abortRequested]
          have fails := Fails.after told withheld (.after noted withheld_nothing fails)
          exact ⟨rfl, _, _, fails, fun _ => rfl⟩

/-! ## The end -/

theorem unready_eventless (unready : world.session.ready = false) :
    Ensures (setReady nested false) world fun _ => Adds Eventless world := by
  unfold setReady
  rw [ensures_bind]
  simp only [ensures_getSession, unready, if_true, ensures_pure]
  exact refl_of (Adds Eventless) world

theorem forget_eventless (unready : world.session.ready = false) :
    Ensures (forget nested server) world fun _ => Adds Eventless world := by
  have settled {start : World} (adds : Adds Eventless world start)
      (unready : start.session.ready = false) : Ensures (do
        setReady nested false
        setPhase .stopped
        modifyThe Session fun session => { session with stopping := false } : Act World Unit) start
        fun _ => Adds Eventless world := by
    refine Ensures.bind ((unready_eventless unready).mono fun _ _ later =>
      trans_of (Adds Eventless) adds later) fun _ _ adds => ?_
    exact Within.later (Within.bind (setPhase_eventless _) fun _ => eventless_modifySession _) adds
  unfold forget
  rw [ensures_bind]
  simp only [ensures_get]
  rw [ensures_bind]
  simp only [record, ensures_write, add_eq_noting]
  rw [ensures_bind]
  simp only [ensures_modifySession]
  rw [ensures_bind]
  simp only [ensures_write, add_eq_noting]
  rw [ensures_bind]
  simp only [ensures_write, add_eq_noting]
  let note := Log.exited ((world.server? server).map fun process => process.conduct.pid)
    ((world.server? server).bind fun process => process.code)
  refine settled ⟨[.logged note, .dropped, .serving none], ?_, ?_⟩ unready
  · simp [World.noting, note]
  · simp [Eventless, emission]

theorem ensures_askToEnd_unready (unready : world.session.ready = false)
    (post : Except Fault Bool → World → Prop) :
    Ensures (askToEnd nested server) world post ↔ post (.ok false) world := by
  unfold askToEnd
  rw [ensures_bind]
  simp only [ensures_getSession, unready]
  exact Iff.rfl

/-- A session that is not open ends without a word. -/
theorem endSession_unready {current : Nat} (passive : Passive world)
    (unready : world.session.ready = false) :
    Ensures (endSession nested current) world fun _ => Uttered server [] [] world := by
  let marked : World := { world with session := { world.session with stopping := true } }
  let ending : World := marked.noting (.ending current)
  have passive : Passive ending := passive.kept
  have noted : Uttered server [] [] marked ending :=
    uttered_noting (.ending current) rfl trivial marked
  have begun : Uttered server [] [] world ending := ⟨noted.events, noted.items⟩
  have dismissed : Ensures (dismiss current false) ending fun _ gone =>
      Left (Ends current) ending gone ∧ Adds Eventless ending gone :=
    ⟨dismiss_leaves current false ending passive, dismiss_eventless current false ending⟩
  -- not being ready, the session has nothing to announce when it is forgotten
  have forgotten {gone : World} (left : Left (Ends current) ending gone)
      (adds : Adds Eventless ending gone) :
      Ensures (forget nested current) gone fun _ => Uttered server [] [] world := by
    have unready : gone.session.ready = false := left.session ▸ unready
    have gone_so_far := begun.trans (uttered_of_adds adds (left.hushed fun _ => Ends.hush))
    have forgets : Ensures (forget nested current) gone fun _ => Tamed Hush gone :=
      ensures_noted (forget_notes hush_tame current gone) left.passive
    refine (forgets.and (forget_eventless unready)).mono ?_
    exact fun _ _ both => gone_so_far.trans (uttered_of_adds both.2 both.1.hushed)
  unfold endSession
  rw [ensures_bind]
  simp only [ensures_modifySession]
  rw [ensures_bind]
  simp only [ensures_write, add_eq_noting]
  rw [ensures_bind, ensures_askToEnd_unready (by exact unready)]
  dsimp only
  rw [ensures_bind, ensures_tryCatch]
  refine dismissed.mono ?_
  rintro (fault | _) gone ⟨left, adds⟩
  · dsimp only
    rw [ensures_bind]
    refine (forgotten left adds).mono ?_
    rintro (fault | _) _ uttered
    · exact uttered
    · exact uttered
  · exact forgotten left adds

theorem Fails.stopped (fails : Fails server events items world world') :
    Ensures (stopIfAborted nested) world' fun _ stopped =>
      stopped.session.phase = .stopped ∧ Uttered server events items world stopped := by
  obtain ⟨current, served⟩ := Option.isSome_iff_exists.mp fails.failing.server
  refine ((fails.failing.ended fails.passive).mono fun _ _ ended => ended.2).and ?_
  have ends : Ensures (endSession nested current) world' fun _ => Uttered server events items world := by
    have silent : Ensures (endSession nested current) world' fun _ => Uttered server [] [] world' :=
      endSession_unready fails.passive fails.unready
    refine silent.mono fun _ _ uttered => ?_
    simpa using fails.told.trans uttered
  unfold stopIfAborted stop
  simp only [ensures_bind, ensures_getSession, fails.failing.abortRequested,
    fails.failing.stopping, served, Bool.not_false, Bool.and_self, if_true, Option.any_some,
    Bool.false_or, ne_eq, not_true_eq_false, decide_false, Bool.false_eq_true, if_false]
  exact ends

/-! ## A stream with a refusal -/

theorem Beginning.of_starting {session : Session} (rest : Rest session)
    (starting : session.phase = .starting) : Beginning session := by
  rcases rest.shape with vacant | beginning | opened
  · rcases vacant.phase with phase | phase <;> simp [starting] at phase
  · exact beginning
  · simp [opened.phase] at starting

/-- One chunk, in which the first response to `initialize` refuses the session. -/
theorem receive_refused {data : Bytes} {before later : List Json} {response : Json}
    {members : List (Text × Json)} (rest : AtRest world) (beginning : Beginning world.session)
    (current : world.session.server = some server) (readable : Readable world data)
    (split : messagesIn (world.session.buffer ++ data) = before ++ response :: later)
    (others : ∀ message ∈ before, responds message (.nat 1) = false)
    (answers : responds response (.nat 1) = true)
    (refuses : response.member? "error" = some (.object members)) (member : members ≠ []) :
    Ensures (receive nested server data) world fun _ world' =>
      world'.session.phase = .stopped ∧ ∃ events items, Uttered server events items world world' ∧
        Withheld events items ∧ ((∀ item ∈ items, item.2 = true) →
          events = before.filterMap notified ++ [refusalEvent (.object members)]) := by
  have hashable := readable.hashable
  rw [split] at hashable
  let notes := (Frame.cut (world.session.buffer ++ data)).payloads.filterMap Frame.Payload.note?
  let buffer := (Frame.cut (world.session.buffer ++ data)).rest
  have begun : Uttered server [] [] world ((world.reading server data buffer).recording notes) := by
    have grown : ((world.reading server data buffer).recording notes).journal.entries =
        world.journal.entries ++ .arrived server data :: notes.map .logged := by
      simp [World.recording, World.reading, World.noting]
    refine uttered_of_adds ⟨_, grown, ?_⟩ ⟨Adds.told ⟨_, grown, ?_⟩, rfl⟩
    · simp [Eventless, emission]
    · simp [Hush]
  have resting := (rest.reading current data buffer).recording notes
  rw [ensures_receive current rest.rest.stopping, Frame.feed_of_incomplete readable.whole,
    handleFeed_messages, ensures_bind, ensures_records]
  dsimp only
  rw [ensures_bind]
  refine (split ▸ handleMessages_refused resting (Beginning.of_starting resting.rest
    beginning.phase) current hashable others answers refuses member).mono ?_
  rintro _ refused ⟨rfl, events, items, fails, all⟩
  refine fails.stopped.mono ?_
  rintro _ stopped ⟨phase, uttered⟩
  exact ⟨phase, events, items, begun.trans uttered, fails.withheld, all⟩

def refusedWrite : Entry → Bool
  | .writeRefused _ _ => true
  | _ => false

theorem accepted_of_writes {entries : List Entry} (accepted : entries.any refusedWrite = false)
    (server : Nat) : ∀ item ∈ handed server entries, item.2 = true := by
  intro item member
  obtain ⟨entry, present, handed⟩ := List.mem_filterMap.mp member
  have taken := List.any_eq_false.mp accepted entry present
  cases entry with
  | wrote other message data =>
      simp only [handing, Option.ite_none_right_eq_some, Option.some.injEq] at handed
      rw [← handed.2]
  | writeRefused other message => exact (taken rfl).elim
  | _ => cases handed

theorem emissions_seen (entries : List Entry) :
    emissions (entries.filter Seen) = emissions entries := by
  rw [emissions, List.filterMap_filter]
  refine List.filterMap_congr fun entry _ => ?_
  cases entry <;> rfl

theorem handed_seen (server : Nat) (entries : List Entry) :
    handed server (entries.filter Seen) = handed server entries := by
  rw [handed, List.filterMap_filter]
  refine List.filterMap_congr fun entry _ => ?_
  cases entry <;> rfl

theorem Alike.uttered {left : World} (alike : Alike False world' left)
    (uttered : Uttered server events items world world') : Uttered server events items world left where
  events := by
    rw [← uttered.events, World.events, World.events, ← emissions_seen,
      ← emissions_seen world'.journal.entries]
    exact congrArg emissions alike.seen
  items other := by
    rw [← uttered.items, World.told, World.told, ← handed_seen,
      ← handed_seen other world'.journal.entries]
    exact congrArg (handed other) alike.seen

end

theorem completion_error {response error : Json} (given : response.member? "error" = some error) :
    (Completion.ofResponse response).error.isObject = true ∧
      ((Completion.ofResponse response).error.isEmpty = false ↔
        ∃ members, error = .object members ∧ members ≠ []) := by
  simp only [Completion.ofResponse, given]
  cases error with
  | object members => simp [Json.isObject, Json.isEmpty]
  | _ => simp [Json.isObject, Json.isEmpty]

/-- What the chunks of the stream have added to the journal, and the phase that they leave. -/
theorem chunks_refused {world : World} {server : Nat} {chunks : List Bytes} {response : Json}
    {members : List (Text × Json)} (depth : Nat) (reached : Reached world) (rest : AtRest world)
    (starting : world.session.phase = .starting) (current : world.session.server = some server)
    (some_chunk : chunks ≠ []) (readable : Readable world chunks.flatten)
    (first : (messagesIn (world.session.buffer ++ chunks.flatten)).find?
      (fun message => responds message (.nat 1)) = some response)
    (refuses : response.member? "error" = some (.object members)) (member : members ≠ []) :
    ∃ events items,
      (leftBy world (turns (performWith (nestedCalls depth)) world
        (chunksFrom server chunks))).session.phase = .stopped ∧
      Uttered server events items world
        (leftBy world (turns (performWith (nestedCalls depth)) world (chunksFrom server chunks))) ∧
      Withheld events items ∧ ((∀ item ∈ items, item.2 = true) → events =
        ((messagesIn (world.session.buffer ++ chunks.flatten)).takeWhile
          fun message => !responds message (.nat 1)).filterMap notified ++
            [refusalEvent (.object members)]) := by
  obtain ⟨answers, before, later, split, others⟩ := List.find?_eq_some_iff_append.mp first
  have others : ∀ message ∈ before, responds message (.nat 1) = false := by simpa using others
  have awaited : (messagesIn (world.session.buffer ++ chunks.flatten)).takeWhile
      (fun message => !responds message (.nat 1)) = before := by
    rw [split, List.takeWhile_append_of_pos (by simpa using others)]
    simp [answers]
  have made : Made server world := by
    refine ⟨reached.sound, serving_of_standing ?_⟩
    rw [reached.sound.server, current]
  have once : Ensures (receive (nestedCalls depth) server chunks.flatten) world fun _ world' => _ :=
    receive_refused rest (Beginning.of_starting rest.rest starting) current readable split others
      answers refuses member
  -- the chunks are read as one, in which the refusal comes first
  have alike : Alike False (after (receive (nestedCalls depth) server chunks.flatten) world) _ :=
    chunks_together some_chunk made rest fun _ => readable
  obtain ⟨phase, events, items, uttered, withheld, all⟩ := once
  refine ⟨events, items, ?_, alike.uttered uttered, withheld, awaited ▸ all⟩
  obtain ⟨journal, buffer, same⟩ := alike.parts
  rw [same]
  exact phase

/--
The first response to `initialize` holds an error object with a member: then the session ends
without being opened, however the stream with this response is cut into chunks.  If the server
takes all answers to its requests, nobody is told more than what the notifications before the
response say, and why the session ends.  No other error is a refusal, though every error is
handed on as an object.
-/
theorem session_refused {world : World} {server : Nat} {chunks : List Bytes} {response : Json}
    {members : List (Text × Json)} (depth : Nat) (reached : Reached world) (rest : AtRest world)
    (starting : world.session.phase = .starting) (current : world.session.server = some server)
    (some_chunk : chunks ≠ []) (readable : Readable world chunks.flatten)
    (first : (messagesIn (world.session.buffer ++ chunks.flatten)).find?
      (fun message => responds message (.nat 1)) = some response)
    (refuses : response.member? "error" = some (.object members)) (member : members ≠ []) :
    let run := turns (performWith (nestedCalls depth)) world (chunksFrom server chunks)
    let entries := run.flatMap Turn.entries
    (leftBy world run).session.phase = .stopped ∧
      (∀ value, .emitted (.ready value) ∉ entries) ∧
      (∀ other, ∀ item ∈ handed other entries, item.1 ≠ opening) ∧
      (entries.any refusedWrite = false → emissions entries =
        ((messagesIn (world.session.buffer ++ chunks.flatten)).takeWhile
          fun message => !responds message (.nat 1)).filterMap notified ++
            [refusalEvent (.object members)]) ∧
      ∀ other error, other.member? "error" = some error →
        (Completion.ofResponse other).error.isObject = true ∧
          ((Completion.ofResponse other).error.isEmpty = false ↔
            ∃ members, error = .object members ∧ members ≠ []) := by
  intro run entries
  obtain ⟨-, grown⟩ := turns_sound (performWith_keeps depth) reached.sound (chunksFrom server chunks)
  obtain ⟨events, items, phase, uttered, withheld, all⟩ := chunks_refused depth reached rest starting
    current some_chunk readable first refuses member
  have told : emissions entries = events := by
    have same := uttered.events
    rw [World.events, grown, emissions, List.filterMap_append] at same
    exact List.append_cancel_left same
  have given (other : Nat) : handed other entries = if other = server then items else [] := by
    have same := uttered.items other
    rw [World.told, grown, handed_append] at same
    exact List.append_cancel_left same
  refine ⟨phase, fun value emitted => ?_, fun other item handed => ?_, fun accepted => ?_,
    fun other error => completion_error⟩
  · have ready : Event.ready value ∈ events := told ▸ List.mem_filterMap.mpr ⟨_, emitted, rfl⟩
    exact withheld.events _ ready rfl
  · rw [given] at handed
    split at handed
    · exact withheld.items item handed
    · cases handed
  · rw [told]
    apply all
    have items_accepted := accepted_of_writes accepted server
    rwa [given, if_pos rfl] at items_accepted

theorem messagesIn_frame {message : Json} (portable : Frame.Portable message)
    (short : (Frame.encode message).toOption.any
      (fun frame => frame.length < 10 ^ Numeral.digitLimit) = true) :
    messagesIn ((Frame.encode message).toOption.getD []) = [message] := by
  obtain ⟨frame, written⟩ := Frame.written_of_short short
  have same : (Frame.encode message).toOption.getD [] = frame := by
    rw [written.1]
    rfl
  rw [same, messagesIn, ← List.append_nil frame, Frame.cut_written [] portable written,
    Frame.cut_of_incomplete rfl]
  rfl

def refusal : Json :=
  .object [("id", .nat 1), ("error", .object [("code", .integer (-32603)), ("message", .literal "no")])]

def greetedWorld : World := leftBy {} (turns (performWith (nestedCalls 0)) {} [.start "srv" [] none])

theorem greetedWorld_rest : AtRest greetedWorld := by
  refine leftBy_turns (fun step member world rest => ?_) (atRest_fresh {} fun _ => rfl)
  refine performWith_passive ?_ rest
  rw [List.mem_singleton.mp member]
  trivial

theorem refusal_portable : Frame.Portable refusal := by
  refine ⟨rfl, .object _ (by decide) ?_⟩
  simp only [List.mem_cons, List.not_mem_nil, or_false, forall_eq_or_imp, forall_eq]
  refine ⟨.integer _ (by decide +kernel), .object _ (by decide) ?_⟩
  simp only [List.mem_cons, List.not_mem_nil, or_false, forall_eq_or_imp, forall_eq]
  exact ⟨.integer _ (by decide +kernel), .string _⟩

def refusalFrame : Bytes := (Frame.encode refusal).toOption.getD []

theorem messagesIn_refusalFrame : messagesIn refusalFrame = [refusal] :=
  messagesIn_frame refusal_portable (by decide +kernel)

/-- The refusal is cut in two. -/
theorem session_refused_in_two :
    let run := turns (performWith (nestedCalls 0)) greetedWorld
      (chunksFrom 0 [refusalFrame.take 9, refusalFrame.drop 9])
    (leftBy greetedWorld run).session.phase = .stopped ∧
      emissions (run.flatMap Turn.entries) = [.log "LSP initialize failed: no"] := by
  have reached : Reached greetedWorld := ⟨{}, {}, 0, _, rfl⟩
  have fresh : greetedWorld.session.buffer = [] := by decide +kernel
  have whole : [refusalFrame.take 9, refusalFrame.drop 9].flatten = refusalFrame := by simp
  have messages : messagesIn (greetedWorld.session.buffer ++
      [refusalFrame.take 9, refusalFrame.drop 9].flatten) = [refusal] := by
    rw [fresh, whole, List.nil_append, messagesIn_refusalFrame]
  have answers : responds refusal (.nat 1) = true := by decide +kernel
  have first : (messagesIn (greetedWorld.session.buffer ++
      [refusalFrame.take 9, refusalFrame.drop 9].flatten)).find?
      (fun message => responds message (.nat 1)) = some refusal := by
    rw [messages, List.find?_cons, answers]
  have current : greetedWorld.session.server = some 0 := by decide +kernel
  have readable : Readable greetedWorld [refusalFrame.take 9, refusalFrame.drop 9].flatten :=
    ⟨by decide +kernel, by decide +kernel⟩
  obtain ⟨stopped, -, -, told, -⟩ := session_refused 0 reached greetedWorld_rest (by decide +kernel)
    current (by simp) readable first rfl (by simp)
  refine ⟨stopped, (told (by decide +kernel)).trans ?_⟩
  rw [messages, List.takeWhile_cons, answers]
  rfl

def emptyRefusal : List Step :=
  [.start "srv" [] none, .send none (.object [("id", .nat 1), ("error", .object [])])]

theorem emptyRefusal_opens :
    (play {} emptyRefusal).map (fun turn => turn.after.session.phase) = [.starting, .ready] := by
  decide +kernel

end Client

end LanguageSession
